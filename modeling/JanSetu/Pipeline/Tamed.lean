import JanSetu.Pipeline.Answers

/-!
# The bounds of an extraction

What `parse_extraction` makes of any text, against the schema that the models
are asked to keep to.  The categories, the bounds and the enumerations are
enforced on every answer; the optional texts are passed on unread, and some
members raise before they are normalised.
-/

namespace JanSetu.Pipeline.Classify

open Python (Json Raised Platform Returns)

variable {platform : Platform}

/-- The members whose schema type is `["string", "null"]`. -/
def optionalTexts : List String :=
  ["requested_action", "landmark", "incident_time", "clarification_question"]

/-- A string, or nothing. -/
def TextOrAbsent : Json → Prop
  | .string _ => True
  | .null => True
  | _ => False

/-- The bounds of `EXTRACTION_SCHEMA`; the scope and the safety level are
enumerations by their type. -/
structure WithinSchema (extraction : StructuredExtraction) : Prop where
  summary : extraction.summary.length ≤ 600
  category : isCanonical extraction.categoryId = true
  fewAlternatives : extraction.alternatives.length ≤ 3
  alternatives : ∀ key ∈ extraction.alternatives,
    isCanonical key = true ∧ key ≠ extraction.categoryId
  confidence : 0 ≤ extraction.confidence ∧ extraction.confidence ≤ 1
  ownerHint : extraction.ownerHint ∈ ownerHints
  requestedAction : TextOrAbsent extraction.requestedAction
  landmark : TextOrAbsent extraction.landmark
  incidentTime : TextOrAbsent extraction.incidentTime
  clarificationQuestion : TextOrAbsent extraction.clarificationQuestion
  missingFacts : extraction.missingFacts.length ≤ 5
  evidence : extraction.evidence.length ≤ 8
  imageObservations : extraction.imageObservations.length ≤ 8
  contradictions : extraction.contradictions.length ≤ 5

/-- The text is read without an error, and what is read keeps to the schema. -/
def Tamed (platform : Platform) (text : String) : Prop :=
  ∃ result, parseExtraction platform (.string text) = .ok result ∧
    ∀ extraction, result = some extraction → WithinSchema extraction

/-- The object that the text holds, if it names a category, has strings or
nothing under the four optional texts. -/
def TextsStated (platform : Platform) (text : String) : Prop :=
  ∀ data key, Holds platform (.string text) data → NamesCategory data key →
    ∀ name ∈ optionalTexts, TextOrAbsent (data.get name)

/-! ## Each conversion -/

theorem firstChars_length (count : Nat) (text : String) :
    (firstChars count text).length ≤ count := by
  unfold firstChars
  rw [String.length_ofList]
  exact List.length_take_le count text.toList

theorem clamp_bounds (value : Python.Float) :
    0 ≤ clamp value ∧ clamp value ≤ 1 := by
  cases value with
  | finite value =>
      constructor
      · exact le_max_left 0 (min 1 value)
      · exact max_le zero_le_one (min_le_left 1 value)
  | _ => constructor <;> simp [clamp]

theorem boundedConfidence_bounds {value : Json} {default confidence : ℚ}
    (lower : 0 ≤ default) (upper : default ≤ 1)
    (bounded : boundedConfidence platform value default = .ok confidence) :
    0 ≤ confidence ∧ confidence ≤ 1 := by
  unfold boundedConfidence at bounded
  cases converted : platform.float value with
  | ok number =>
      rw [converted] at bounded
      rw [← Except.ok.inj bounded]
      exact clamp_bounds number
  | error raised =>
      rw [converted] at bounded
      simp only at bounded
      split at bounded
      · rw [← Except.ok.inj bounded]
        exact ⟨lower, upper⟩
      · cases bounded

theorem ownerHintOf_mem {value : Json} {hint : String}
    (read : ownerHintOf value = .ok hint) : hint ∈ ownerHints := by
  have unknown : "unknown" ∈ ownerHints := by
    simp [ownerHints]
  unfold ownerHintOf at read
  split at read
  · split at read
    · rw [← Except.ok.inj read]
      split
      · assumption
      · exact unknown
    · rw [← Except.ok.inj read]
      exact unknown
  · cases read

theorem strings_length {data : Json} {name : String} {limit : Nat}
    {read : List String} (found : strings platform data name limit = .ok read) :
    read.length ≤ limit := by
  unfold strings at found
  simp only [Python.bind_ok, Python.pure_ok] at found
  obtain ⟨items, _, rfl⟩ := found
  exact List.length_take_le limit _

theorem alternatives_length {data : Json} {categoryId : String}
    {read : List String} (found : alternatives data categoryId = .ok read) :
    read.length ≤ 3 := by
  unfold alternatives at found
  simp only [Python.bind_ok, Python.pure_ok] at found
  obtain ⟨items, _, keys, _, rfl⟩ := found
  exact List.length_take_le 3 _

theorem alternatives_canonical {data : Json} {categoryId : String}
    {read : List String} (found : alternatives data categoryId = .ok read)
    {key : String} (member : key ∈ read) :
    isCanonical key = true ∧ key ≠ categoryId := by
  unfold alternatives at found
  simp only [Python.bind_ok, Python.pure_ok] at found
  obtain ⟨items, _, keys, _, rfl⟩ := found
  have kept := List.mem_of_mem_take member
  simpa using (List.mem_filter.mp kept).2

/-! ## The extraction -/

/-- Whatever the members are, only the optional texts can leave the schema. -/
theorem readMembers_withinSchema {members : List (String × Json)}
    {categoryId : String} {extraction : StructuredExtraction}
    (canonical : isCanonical categoryId = true)
    (read : readMembers platform members categoryId = .ok extraction) :
    WithinSchema extraction ↔
      ∀ name ∈ optionalTexts,
        TextOrAbsent ((Json.object members).get name) := by
  unfold readMembers at read
  simp only [Python.bind_ok, Python.pure_ok] at read
  obtain ⟨ownerHint, hinted, keys, listed, confidence, bounded, missing,
    missed, evidence, evident, observations, observed, contradictions,
    contradicted, rfl⟩ := read
  constructor
  · intro within name member
    simp only [optionalTexts, List.mem_cons, List.not_mem_nil,
      or_false] at member
    rcases member with rfl | rfl | rfl | rfl
    · exact within.requestedAction
    · exact within.landmark
    · exact within.incidentTime
    · exact within.clarificationQuestion
  · intro stated
    exact
      { summary := firstChars_length 600 _
        category := canonical
        fewAlternatives := alternatives_length listed
        alternatives := fun key member =>
          alternatives_canonical listed member
        confidence :=
          boundedConfidence_bounds le_rfl zero_le_one bounded
        ownerHint := ownerHintOf_mem hinted
        requestedAction := stated _ (by simp [optionalTexts])
        landmark := stated _ (by simp [optionalTexts])
        incidentTime := stated _ (by simp [optionalTexts])
        clarificationQuestion := stated _ (by simp [optionalTexts])
        missingFacts := strings_length missed
        evidence := strings_length evident
        imageObservations := strings_length observed
        contradictions := strings_length contradicted }

/-- An extraction is read from the members of an object that names its
category. -/
theorem parseExtraction_read {content : Json}
    {extraction : StructuredExtraction}
    (parsed : parseExtraction platform content = .ok (some extraction)) :
    ∃ members key, Holds platform content (.object members) ∧
      NamesCategory (.object members) key ∧
      readMembers platform members key = .ok extraction := by
  rcases content_cases platform content with ⟨raises, _⟩ |
    ⟨nothing, _, _⟩ | ⟨members, holds, same, _⟩
  · exact absurd ⟨_, parsed⟩ raises
  · rw [nothing] at parsed
    cases parsed
  · rw [same] at parsed
    rcases category_cases (.object members) with ⟨raises, _⟩ |
      ⟨key, found, canonical, named⟩ | ⟨key, found, foreign, _, _⟩
    · obtain ⟨key, found, _⟩ := Python.bind_ok.mp parsed
      exact absurd ⟨key, found⟩ raises
    · rw [parseMembers_known found canonical] at parsed
      simp only [Python.bind_ok, Python.pure_ok] at parsed
      obtain ⟨read, done, same⟩ := parsed
      rw [Option.some.inj same] at done
      exact ⟨members, key, holds, named, done⟩
    · rw [parseMembers_unknown found foreign] at parsed
      cases parsed

/-- Reading a text yields nothing, or an extraction that keeps to the schema
exactly when the optional texts are texts. -/
theorem parseExtraction_withinSchema {text : String}
    {result : Option StructuredExtraction}
    (parsed : parseExtraction platform (.string text) = .ok result) :
    (∀ extraction, result = some extraction → WithinSchema extraction) ↔
      TextsStated platform text := by
  cases result with
  | none =>
      have unusable := parseExtraction_none parsed
      constructor
      · intro _ data key holds named
        exact absurd ⟨data, key, holds, named⟩ unusable
      · intro _ extraction same
        cases same
  | some extraction =>
      obtain ⟨members, key, holds, named, read⟩ :=
        parseExtraction_read parsed
      have canonical : isCanonical key = true := by
        obtain ⟨_, _, _, canonical⟩ := named
        exact canonical
      have schema := readMembers_withinSchema canonical read
      constructor
      · intro within data other holds' _
        rw [← holds.unique holds']
        exact schema.mp (within extraction rfl)
      · intro stated other same
        rw [← Option.some.inj same]
        exact schema.mpr (stated _ key holds named)

/-- A text is tamed exactly when its members are of kinds that can be read and
its optional texts are texts. -/
theorem tamed_iff (platform : Platform) (text : String) :
    Tamed platform text ↔
      ContentBorne platform (.string text) ∧ TextsStated platform text := by
  rw [← returns_parseExtraction]
  constructor
  · rintro ⟨result, parsed, within⟩
    exact ⟨⟨result, parsed⟩,
      (parseExtraction_withinSchema parsed).mp within⟩
  · rintro ⟨⟨result, parsed⟩, stated⟩
    exact ⟨result, parsed,
      (parseExtraction_withinSchema parsed).mpr stated⟩

/-! ## Two answers outside the schema -/

/-- An answer with a list of categories. -/
def listedCategory : String :=
  "\x7b\"category_id\": [\"streetlight_out\"]\x7d"

/-- An answer with an object for a landmark. -/
def nestedLandmark : String :=
  "\x7b\"category_id\": \"streetlight_out\", " ++
    "\"landmark\": \x7b\"near\": \"the park\"\x7d\x7d"

def nestedMembers : List (String × Json) :=
  [("category_id", .string "streetlight_out"),
    ("landmark", .object [("near", .string "the park")])]

/-- The decoder on these answers. -/
def decoder : Platform :=
  { loads := fun text =>
      if text = listedCategory then
        .value (.object
          [("category_id", .array [.string "streetlight_out"])])
      else if text = nestedLandmark then .value (.object nestedMembers)
      else .notJson
    repr := fun _ => ""
    floatOfText := fun _ => none
    casefold := fun text => text
    validUrl := fun _ => false }

theorem braces_listedCategory :
    braces listedCategory = some listedCategory := by
  decide +kernel

theorem braces_nestedLandmark :
    braces nestedLandmark = some nestedLandmark := by
  decide +kernel

/-- The first answer raises, the second gives an extraction whose landmark is
no text. -/
theorem untamed_answers :
    parseExtraction decoder (.string listedCategory) = .error .typeError ∧
      ¬ Tamed decoder listedCategory ∧ ¬ Tamed decoder nestedLandmark := by
  have raised : parseExtraction decoder (.string listedCategory) =
      .error .typeError := by
    simp [parseExtraction, extractJson, braces_listedCategory, decoder,
      parseMembers, categoryOf, canonicalKey, Json.get, Json.getD,
      Json.member, Json.orElse, Json.truthy, Json.hashable, Bind.bind,
      Except.bind]
  have loaded : decoder.loads nestedLandmark =
      .value (.object nestedMembers) := by
    have different : nestedLandmark ≠ listedCategory := by
      decide +kernel
    simp [decoder, different]
  have known : canonicalCategoryKey (some "streetlight_out") =
      some "streetlight_out" := by
    decide +kernel
  have canonical : isCanonical "streetlight_out" = true := by
    decide +kernel
  refine ⟨raised, ?_, ?_⟩
  · rintro ⟨result, parsed, _⟩
    rw [raised] at parsed
    cases parsed
  · rintro ⟨result, parsed, within⟩
    have stated := (parseExtraction_withinSchema parsed).mp within
    exact stated (.object nestedMembers) "streetlight_out"
      ⟨nestedLandmark, nestedLandmark, nestedMembers, rfl,
        braces_nestedLandmark, loaded, by simp [nestedMembers], rfl⟩
      ⟨"streetlight_out", rfl, known, canonical⟩
      "landmark" (by simp [optionalTexts])

end JanSetu.Pipeline.Classify
