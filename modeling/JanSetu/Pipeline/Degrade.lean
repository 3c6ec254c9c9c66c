import JanSetu.Pipeline.Answers
import JanSetu.Pipeline.Hearing
import JanSetu.Pipeline.Lifecycle

/-!
# `run_pipeline` over the outcomes of its requests

The run of one draft, with every request that it makes ending in any way.  It
degrades exactly when none of the answers that it reads is of a shape that one
of its stages lets through as an exception.
-/

namespace JanSetu.Pipeline.Degrade

open Python (Json Raised Platform Returns)
open Evidence (ClipOutcomes GeocodeOutcomes PhotoOutcomes EntryBorne
  AddressBorne PhotoBorne PhotoShows Worded Unheard Languages
  ofText textColumn settled)
open Classify (Reply Attempt asked modelOf Reached ReplyBorne ReplyUsable)

structure Settings where
  pipeline : Pipeline.Settings
  evidence : Evidence.Settings
  classify : Classify.Settings

/-- What comes of everything that one run asks of others: of the files and
requests of each message, of the geocoder, the photo, the models in turn and
the routes of the jurisdiction. -/
structure Outcomes where
  clips : Nat → ClipOutcomes
  geocode : GeocodeOutcomes
  photo : PhotoOutcomes
  replies : Nat → Reply
  routes : List JurisdictionRouteRow
  now : Time

/-- What a run that does not raise has put together. -/
structure Drafted where
  issue : Evidence.IssueText
  locationAddress : Option String
  sourceLanguage : Option String
  extraction : Classify.StructuredExtraction
  policy : RoutingDecision
  route : Option JurisdictionRoute
  imageMatchStatus : ImageMatchStatus
  flags : List String
  status : GrievanceStatus
  originalText : String

def entries (row : Grievance) (outcomes : Outcomes) : List Evidence.Entry :=
  row.issueMessages.mapIdx fun index message =>
    (message, outcomes.clips index)

def address (row : Grievance) (geocode : GeocodeOutcomes) :
    Except Raised Json :=
  if Python.truthy row.locationAddress then .ok (ofText row.locationAddress)
  else if row.locationLatitude.isSome then
    Evidence.reverseGeocodeCached row.locationLongitude geocode
  else .ok (ofText row.locationAddress)

def imageMatchStatus (photo : Option (List UInt8))
    (extraction : Classify.StructuredExtraction) : ImageMatchStatus :=
  if photo.isSome then
    if extraction.degraded then .unverified
    else if extraction.contradictions ≠ [] then .mismatched
    else .matched
  else .none

def flags (sttFlags : List String) (photo : Option (List UInt8))
    (extraction : Classify.StructuredExtraction) (policy : RoutingDecision) :
    List String :=
  sttFlags ++
    (if extraction.degraded then
      "classification_failed" ::
        (if photo.isSome then ["image_check_degraded"] else [])
     else []) ++
    (if policy.needsOfficialReview then ["official_review_required"]
     else []) ++
    (if extraction.multipleIssues then ["multiple_issues"] else [])

/-- The part of the run that follows the requests.  The columns of type
`String` and `Text` that take a value from an answer refuse anything else. -/
def draft (row : Grievance) (outcomes : Outcomes) (issue : Evidence.IssueText)
    (address : Json) (photo : Option (List UInt8))
    (extraction : Classify.StructuredExtraction) : Except Raised Drafted := do
  let policy := evaluateRoutingPolicy (some extraction.categoryId)
    extraction.safety extraction.assetScope address.truthy
  let verdict := imageMatchStatus photo extraction
  let original ←
    match Pipeline.originalText row.issueMessages with
    | some text => Except.ok text
    | none => .error Raised.attributeError
  let _ ← textColumn (some 255) extraction.actualModel
  let locationAddress ← textColumn none address
  let sourceLanguage ← textColumn (some 16) issue.detectedLanguage
  pure
    { issue := issue
      locationAddress := locationAddress
      sourceLanguage := sourceLanguage
      extraction := extraction
      policy := policy
      route := resolveRoute outcomes.routes (some extraction.categoryId)
        (jurisdictionOf row) outcomes.now
      imageMatchStatus := verdict
      flags := flags issue.flags photo extraction policy
      status :=
        if verdict = .mismatched then .photoMismatch else .awaitingConfirmation
      originalText := original }

def runPipeline (platform : Platform) (settings : Settings)
    (row : Grievance) (outcomes : Outcomes) : Except Raised Drafted := do
  let issue ← Evidence.combineIssueText platform settings.evidence
    (entries row outcomes)
  let address ← address row outcomes.geocode
  let photo ← Evidence.fetchPhoto platform settings.evidence row outcomes.photo
  let hasImage := photo.any fun content => !content.isEmpty
  let extraction ← Classify.extractIssue platform settings.classify issue.text
    hasImage outcomes.replies
  draft row outcomes issue address photo extraction

/-! ## What is left on the grievance -/

/-- A recording with its texts; what is no text is read as missing. -/
def recorded (recording : Evidence.Recording) : Transcript :=
  { recordingId := recording.recordingId
    segmentIndex := recording.segmentIndex
    text := recording.text.text.getD ""
    language := recording.language.text.getD "und"
    mimeType := recording.mimeType.text.getD "" }

/-- The extraction with its texts; what is no text is read as missing. -/
def extracted (extraction : Classify.StructuredExtraction) :
    StructuredExtraction :=
  { summary := extraction.summary
    categoryId := extraction.categoryId
    alternatives := extraction.alternatives
    confidence := extraction.confidence
    assetScope := extraction.assetScope
    ownerHint := extraction.ownerHint
    safety := extraction.safety
    requestedAction := extraction.requestedAction.text
    landmark := extraction.landmark.text
    incidentTime := extraction.incidentTime.text
    missingFacts := extraction.missingFacts
    clarificationQuestion := extraction.clarificationQuestion.text
    evidence := extraction.evidence
    imageObservations := extraction.imageObservations
    contradictions := extraction.contradictions
    multipleIssues := extraction.multipleIssues
    degraded := extraction.degraded
    actualModel := extraction.actualModel.text
    latencyMs := extraction.latencyMs }

/-- The columns that `set_grievance_fields` writes. -/
def Drafted.fields (drafted : Drafted) (row : Grievance) : Grievance :=
  let extraction := drafted.extraction
  let category := categoryOrDefault (some extraction.categoryId)
  { row with
    issueText := some drafted.issue.text
    locationAddress := drafted.locationAddress
    sourceLanguage := drafted.sourceLanguage
    transcriptMetadata := drafted.issue.transcripts.map recorded
    category := some extraction.categoryId
    departmentKey := some category.departmentKey
    priority := some drafted.policy.priority
    term := some category.termHint
    confidence := some extraction.confidence
    imageMatchStatus := some drafted.imageMatchStatus
    flags := fromKeys drafted.flags
    status := drafted.status
    taxonomyVersion := some taxonomyVersion
    categoryId := some extraction.categoryId
    aggregationKey := some category.aggregationKey
    jurisdictionId := some demoJurisdictionId
    safetyLevel := some extraction.safety
    assetScope := some extraction.assetScope
    disposition := some drafted.policy.disposition
    reviewStatus := some (reviewStatusOf drafted.policy)
    policyVersion := some taxonomyVersion
    routingSnapshot := some
      (routingSnapshot extraction.categoryId
        (drafted.route.elim category.departmentKey (·.departmentKey))
        drafted.route drafted.policy.disposition)
    structuredFacts := some
      (RunPipeline.structuredFacts (extracted extraction)
        drafted.originalText) }

/-- The grievance after the run. -/
def Drafted.row (drafted : Drafted) (settings : Settings) (id : String)
    (row : Grievance) : Grievance :=
  withReceipt settings.pipeline id drafted.status drafted.fields row

/-! ## Degrading -/

/-- Something is said: typed, or in a voice note with a text. -/
def Described (settings : Settings) (row : Grievance) (outcomes : Outcomes) :
    Prop :=
  ∃ text, Worded settings.evidence (entries row outcomes) text ∧
    Python.strip text ≠ ""

/-- There are bytes of a photo. -/
def Shown (row : Grievance) (outcomes : Outcomes) : Prop :=
  ∃ content, PhotoShows row outcomes.photo content ∧ content ≠ []

/-- The models for a complaint, which depend on whether there is a photo. -/
def Models (settings : Settings) (row : Grievance) (outcomes : Outcomes)
    (attempts : List (Attempt × Reply)) : Prop :=
  ∃ hasImage, (hasImage = true ↔ Shown row outcomes) ∧
    attempts = asked settings.classify hasImage outcomes.replies

/-- Null, or a text that fits into the column. -/
def Storable (limit : Nat) (value : Json) : Prop :=
  value = .null ∨ ∃ text, value = .string text ∧ text.length ≤ limit

/-- None of the answers that are read has one of the shapes that get through
as an exception. -/
structure Borne (platform : Platform) (settings : Settings) (row : Grievance)
    (outcomes : Outcomes) : Prop where
  clips : ∀ entry ∈ entries row outcomes,
    EntryBorne platform settings.evidence entry
  texts : ∀ message ∈ row.issueMessages, message.type = "text" →
    message.text ≠ none
  address : Python.truthy row.locationAddress = false →
    row.locationLatitude ≠ none →
    AddressBorne row.locationLongitude outcomes.geocode
  photo : PhotoBorne platform settings.evidence row outcomes.photo
  answers : Described settings row outcomes →
    ∀ attempts, Models settings row outcomes attempts →
      ∀ entry, Reached platform attempts entry → ReplyBorne platform entry.2
  model : Described settings row outcomes →
    ∀ attempts, Models settings row outcomes attempts →
      ∀ entry payload, Reached platform attempts entry →
        ReplyUsable platform entry.2 → entry.2.outcome.Gives payload →
        Storable 255 (modelOf entry.1 (payload.get "model"))
  language : ∀ languages,
    Languages settings.evidence (entries row outcomes) languages →
    Storable 16 (settled languages)

variable {platform : Platform} {settings : Settings} {row : Grievance}
  {outcomes : Outcomes}

theorem returns_textColumn {limit : Nat} {value : Json} :
    Returns (textColumn (some limit) value) ↔ Storable limit value := by
  cases value with
  | null => simp [textColumn, Storable, Python.returns_ok]
  | string text =>
      by_cases fits : text.length ≤ limit
      · simp [textColumn, Storable, fits, Python.returns_ok]
      · simp [textColumn, Storable, fits, Python.not_returns_error]
  | _ => simp [textColumn, Storable, Python.not_returns_error]

theorem returns_textColumn_ofText (text : Option String) :
    Returns (textColumn none (ofText text)) := by
  cases text <;> exact Python.returns_ok _

/-- What becomes of the address of the run. -/
theorem address_cases (row : Grievance) (geocode : GeocodeOutcomes) :
    ((Python.truthy row.locationAddress = false →
        row.locationLatitude ≠ none →
        AddressBorne row.locationLongitude geocode) ∧
      ∃ text, address row geocode = .ok (ofText text)) ∨
    (¬ (Python.truthy row.locationAddress = false →
        row.locationLatitude ≠ none →
        AddressBorne row.locationLongitude geocode) ∧
      ¬ Returns (address row geocode)) := by
  unfold address
  cases known : Python.truthy row.locationAddress with
  | true => exact .inl ⟨nofun, row.locationAddress, rfl⟩
  | false =>
      cases latitude : row.locationLatitude with
      | none => exact .inl ⟨by simp, row.locationAddress, rfl⟩
      | some latitude =>
          simp only [Bool.false_eq_true, if_false, Option.isSome_some,
            if_true]
          rcases Evidence.geocode_cases row.locationLongitude geocode with
            ⟨borne, text, found⟩ | ⟨unborne, raises⟩
          · exact .inl ⟨fun _ _ => borne, text, found⟩
          · exact .inr ⟨fun all => unborne (all trivial (by simp)), raises⟩

theorem originalText_isSome {messages : List IssueMessage} :
    (Pipeline.originalText messages).isSome = true ↔
      ∀ message ∈ messages, message.type = "text" → message.text ≠ none := by
  unfold Pipeline.originalText
  simp only [List.any_filter]
  split
  next missing =>
      simp only [Option.isSome_none, Bool.false_eq_true, false_iff]
      intro all
      obtain ⟨message, member, bad⟩ := List.any_eq_true.mp missing
      simp only [Bool.and_eq_true, decide_eq_true_eq,
        Option.isNone_iff_eq_none] at bad
      exact all message member bad.1 bad.2
  next present =>
      simp only [Option.isSome_some, true_iff]
      intro message member typed missing
      apply present
      apply List.any_eq_true.mpr
      exact ⟨message, member, by simp [typed, missing]⟩

section

variable {issue : Evidence.IssueText} {location : Option String}
  {photo : Option (List UInt8)}
  {extraction : Classify.StructuredExtraction}

/-- Past the requests, a run can only fail on a text that is null or on a
column that refuses its value. -/
theorem returns_draft :
    Returns (draft row outcomes issue (ofText location) photo extraction) ↔
      (∀ message ∈ row.issueMessages, message.type = "text" →
        message.text ≠ none) ∧
      Storable 255 extraction.actualModel ∧
      Storable 16 issue.detectedLanguage := by
  rw [← originalText_isSome, ← returns_textColumn, ← returns_textColumn]
  unfold draft
  cases original : Pipeline.originalText row.issueMessages with
  | none =>
      simp [Bind.bind, Except.bind, Python.not_returns_error]
  | some text =>
      obtain ⟨stored, written⟩ := returns_textColumn_ofText location
      simp only [Option.isSome_some, true_and]
      rw [Python.returns_bind]
      simp only [Except.ok.injEq, exists_eq_left']
      rw [Python.returns_bind, written]
      constructor
      · rintro ⟨model, first, rest⟩
        obtain ⟨_, _, rest⟩ := Python.returns_bind.mp rest
        obtain ⟨language, second, _⟩ := Python.returns_bind.mp rest
        exact ⟨⟨model, first⟩, language, second⟩
      · rintro ⟨⟨model, first⟩, language, second⟩
        refine ⟨model, first, ?_⟩
        exact Python.returns_bind.mpr ⟨stored, rfl,
          Python.returns_bind.mpr ⟨language, second, Python.returns_pure _⟩⟩

/-- What a run that does not raise leaves, by its parts. -/
theorem draft_ok {found : Json} {drafted : Drafted}
    (done : draft row outcomes issue found photo extraction = .ok drafted) :
    ∃ text location language,
      Pipeline.originalText row.issueMessages = some text ∧
      textColumn none found = .ok location ∧
      textColumn (some 16) issue.detectedLanguage = .ok language ∧
      drafted =
        { issue := issue
          locationAddress := location
          sourceLanguage := language
          extraction := extraction
          policy := evaluateRoutingPolicy (some extraction.categoryId)
            extraction.safety extraction.assetScope found.truthy
          route := resolveRoute outcomes.routes (some extraction.categoryId)
            (jurisdictionOf row) outcomes.now
          imageMatchStatus := imageMatchStatus photo extraction
          flags := flags issue.flags photo extraction
            (evaluateRoutingPolicy (some extraction.categoryId)
              extraction.safety extraction.assetScope found.truthy)
          status :=
            if imageMatchStatus photo extraction = .mismatched then
              .photoMismatch
            else .awaitingConfirmation
          originalText := text } := by
  unfold draft at done
  cases original : Pipeline.originalText row.issueMessages with
  | none =>
      rw [original] at done
      simp [Bind.bind, Except.bind] at done
  | some text =>
      rw [original] at done
      simp only [Python.bind_ok, Python.pure_ok] at done
      obtain ⟨_, same, _, _, location, located, language, spoken, rfl⟩ := done
      cases same
      exact ⟨text, location, language, rfl, located, spoken, rfl⟩

end

/-! ## A whole run -/

theorem models_iff {hasImage : Bool} {attempts : List (Attempt × Reply)}
    (shown : hasImage = true ↔ Shown row outcomes) :
    Models settings row outcomes attempts ↔
      attempts = asked settings.classify hasImage outcomes.replies := by
  constructor
  · rintro ⟨other, shown', rfl⟩
    have same : other = hasImage := by
      rw [Bool.eq_iff_iff, shown, shown']
    rw [same]
  · intro same
    exact ⟨hasImage, shown, same⟩

theorem shown_iff {photo : Option (List UInt8)}
    (shows_ : ∀ content, PhotoShows row outcomes.photo content ↔
      photo = some content) :
    (photo.any fun content => !content.isEmpty) = true ↔
      Shown row outcomes := by
  unfold Shown
  simp only [shows_]
  cases photo with
  | none => simp
  | some content => cases content <;> simp

/-- The requests of a run that gets as far as the columns. -/
structure Gathered (platform : Platform) (settings : Settings)
    (row : Grievance) (outcomes : Outcomes) (issue : Evidence.IssueText)
    (location : Option String) (photo : Option (List UInt8))
    (hasImage : Bool) : Prop where
  combined : Evidence.combineIssueText platform settings.evidence
    (entries row outcomes) = .ok issue
  addressed : address row outcomes.geocode = .ok (ofText location)
  fetched : Evidence.fetchPhoto platform settings.evidence row
    outcomes.photo = .ok photo
  image : hasImage = photo.any fun content => !content.isEmpty
  shown : hasImage = true ↔ Shown row outcomes

/-- Voice notes, address and photo are gathered, or one of them is not
borne. -/
theorem gathered_cases (platform : Platform) (settings : Settings)
    (row : Grievance) (outcomes : Outcomes) :
    ((∀ entry ∈ entries row outcomes,
        EntryBorne platform settings.evidence entry) ∧
      (Python.truthy row.locationAddress = false →
        row.locationLatitude ≠ none →
        AddressBorne row.locationLongitude outcomes.geocode) ∧
      PhotoBorne platform settings.evidence row outcomes.photo ∧
      ∃ issue location photo hasImage,
        Gathered platform settings row outcomes issue location photo
          hasImage) ∨
    (¬ ((∀ entry ∈ entries row outcomes,
        EntryBorne platform settings.evidence entry) ∧
      (Python.truthy row.locationAddress = false →
        row.locationLatitude ≠ none →
        AddressBorne row.locationLongitude outcomes.geocode) ∧
      PhotoBorne platform settings.evidence row outcomes.photo) ∧
      ¬ Returns (runPipeline platform settings row outcomes)) := by
  by_cases clips : ∀ entry ∈ entries row outcomes,
      EntryBorne platform settings.evidence entry
  · obtain ⟨issue, combined⟩ := Evidence.returns_combineIssueText.mpr clips
    rcases address_cases row outcomes.geocode with
      ⟨addressed, location, found⟩ | ⟨unborne, raises⟩
    · rcases Evidence.photo_cases platform settings.evidence row
          outcomes.photo with
        ⟨photographed, photo, fetched, shows_⟩ | ⟨unborne, raises⟩
      · exact .inl ⟨clips, addressed, photographed, issue, location, photo, _,
          combined, found, fetched, rfl, shown_iff shows_⟩
      · refine .inr ⟨fun all => unborne all.2.2, ?_⟩
        intro returns
        obtain ⟨_, _, returns⟩ := Python.returns_bind.mp returns
        obtain ⟨_, _, returns⟩ := Python.returns_bind.mp returns
        obtain ⟨photo, fetched, _⟩ := Python.returns_bind.mp returns
        exact raises ⟨photo, fetched⟩
    · refine .inr ⟨fun all => unborne all.2.1, ?_⟩
      intro returns
      obtain ⟨_, _, returns⟩ := Python.returns_bind.mp returns
      obtain ⟨found, same, _⟩ := Python.returns_bind.mp returns
      exact raises ⟨found, same⟩
  · refine .inr ⟨fun all => clips all.1, ?_⟩
    intro returns
    obtain ⟨issue, combined, _⟩ := Python.returns_bind.mp returns
    exact clips (Evidence.returns_combineIssueText.mp ⟨issue, combined⟩)

section

variable {issue : Evidence.IssueText} {location : Option String}
  {photo : Option (List UInt8)} {hasImage : Bool}

/-- After what is gathered, the run is the extraction and the columns. -/
theorem Gathered.runPipeline_eq
    (gathered : Gathered platform settings row outcomes issue location photo
      hasImage) :
    runPipeline platform settings row outcomes =
      (do
        let extraction ← Classify.extractIssue platform settings.classify
          issue.text hasImage outcomes.replies
        draft row outcomes issue (ofText location) photo extraction) := by
  unfold runPipeline
  rw [gathered.combined, gathered.image]
  simp only [Bind.bind, Except.bind, gathered.addressed, gathered.fetched]

theorem Gathered.described_iff
    (gathered : Gathered platform settings row outcomes issue location photo
      hasImage) :
    Python.strip issue.text ≠ "" ↔ Described settings row outcomes :=
  (Evidence.combine_ok gathered.combined).2.1

/-- The columns take what the answers put into them, whatever the models
gave. -/
theorem Gathered.storable_iff
    (gathered : Gathered platform settings row outcomes issue location photo
      hasImage) {extraction : Classify.StructuredExtraction}
    (extracted : Classify.extractIssue platform settings.classify issue.text
      hasImage outcomes.replies = .ok extraction) :
    Storable 255 extraction.actualModel ↔
      (Described settings row outcomes →
        ∀ attempts, Models settings row outcomes attempts →
          ∀ entry payload, Reached platform attempts entry →
            ReplyUsable platform entry.2 → entry.2.outcome.Gives payload →
            Storable 255 (modelOf entry.1 (payload.get "model"))) := by
  rcases Classify.extractIssue_ok extracted with
    ⟨_, unnamed, none⟩ | ⟨_, said, first, payload, reached, used, gives,
      named⟩
  · constructor
    · intro _ described attempts models entry _ reached usable _
      have same := (models_iff gathered.shown).mp models
      subst same
      exact absurd usable (none (gathered.described_iff.mpr described) entry
        reached.mem)
    · intro _
      exact .inl unnamed
  · constructor
    · intro storable _ attempts models entry payload' reached' usable gives'
      have same := (models_iff gathered.shown).mp models
      subst same
      cases reached.unique reached' used usable
      cases gives.unique gives'
      rwa [named] at storable
    · intro all
      rw [named]
      exact all (gathered.described_iff.mp said) _
        ((models_iff gathered.shown).mpr rfl) first payload reached used gives

theorem Gathered.language_iff
    (gathered : Gathered platform settings row outcomes issue location photo
      hasImage) :
    Storable 16 issue.detectedLanguage ↔
      ∀ languages,
        Languages settings.evidence (entries row outcomes) languages →
        Storable 16 (settled languages) := by
  obtain ⟨_, _, languages, spoken, same⟩ :=
    Evidence.combine_ok gathered.combined
  rw [same]
  constructor
  · intro storable other spoken'
    rw [← spoken.unique spoken']
    exact storable
  · intro all
    exact all languages spoken

theorem Gathered.returns_extractIssue
    (gathered : Gathered platform settings row outcomes issue location photo
      hasImage) :
    Returns (Classify.extractIssue platform settings.classify issue.text
        hasImage outcomes.replies) ↔
      (Described settings row outcomes →
        ∀ attempts, Models settings row outcomes attempts →
          ∀ entry, Reached platform attempts entry →
            ReplyBorne platform entry.2) := by
  rw [Classify.returns_extractIssue, gathered.described_iff]
  constructor
  · intro all described attempts models
    have same := (models_iff gathered.shown).mp models
    subst same
    exact all described
  · intro all described
    exact all described _ ((models_iff gathered.shown).mpr rfl)

end

/-- A run returns exactly when every answer that it reads is borne. -/
theorem returns_runPipeline :
    Returns (runPipeline platform settings row outcomes) ↔
      Borne platform settings row outcomes := by
  rcases gathered_cases platform settings row outcomes with
    ⟨clips, addressed, photographed, issue, location, photo, hasImage,
      gathered⟩ | ⟨unborne, raises⟩
  · rw [gathered.runPipeline_eq, Python.returns_bind]
    constructor
    · rintro ⟨extraction, extracted, drafted⟩
      obtain ⟨texts, model, language⟩ := returns_draft.mp drafted
      exact
        { clips := clips
          texts := texts
          address := addressed
          photo := photographed
          answers := gathered.returns_extractIssue.mp ⟨_, extracted⟩
          model := (gathered.storable_iff extracted).mp model
          language := gathered.language_iff.mp language }
    · intro borne
      obtain ⟨extraction, extracted⟩ :=
        gathered.returns_extractIssue.mpr borne.answers
      exact ⟨extraction, extracted, returns_draft.mpr
        ⟨borne.texts, (gathered.storable_iff extracted).mpr borne.model,
          gathered.language_iff.mpr borne.language⟩⟩
  · constructor
    · intro returns
      exact absurd returns raises
    · intro borne
      exact absurd ⟨borne.clips, borne.address, borne.photo⟩ unborne

/-! ## What a run that returns has done -/

section

variable {drafted : Drafted} {id : String}

end

/-- A draft with one line of text. -/
def potholeDraft : Grievance :=
  draftGrievance "JS-20260625-00001" "contact" none (some "citizen") .web
    { lat := some 28, lon := some 77, displayAddress := some "Ward 12"
      messages :=
        [{ type := "text", text := some "pothole", mediaId := none
           mimeType := none, localPath := none, recordingId := none
           segmentIndex := none }]
      photoMediaId := none } 0

def oneModel : Settings :=
  { pipeline := { uploadDir := "./data/uploads", dedupRadiusM := 300
                  dedupWindowHours := 24 }
    evidence := { whatsappAccessToken := none
                  whatsappGraphApiVersion := "v25.0", sarvamApiKey := none }
    classify := { googleApiKey := some "key"
                  googleModels := "gemini-3.6-flash", groqApiKey := none
                  groqModels := "", openrouterApiKey := none
                  openrouterModels := "" } }

/-- A completion without content, as it is given for a refusal or when the
budget of tokens is spent. -/
def nullContent : Python.Outcome :=
  .answered
    { status := 200
      body := .value (.object
        [("choices", .array
          [.object [("message", .object [("content", .null)])]])])
      content := [] }

/-- Every other request fails, the models answer without content. -/
def contentless : Outcomes :=
  { clips := fun _ =>
      { read := none, media := { lookup := .failed, download := .failed }
        speech := .failed }
    geocode := { cached := none, request := .failed }
    photo :=
      { read := none, media := { lookup := .failed, download := .failed } }
    replies := fun _ => { outcome := nullContent, latencyMs := 900 }
    routes := []
    now := 0 }

end JanSetu.Pipeline.Degrade
