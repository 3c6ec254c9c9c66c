import JanSetu.Pipeline.Degrade
import JanSetu.Pipeline.Transcripts
import JanSetu.Python.Lines
import JanSetu.Whatsapp.DraftFidelity

/-!
# What a citizen has described

The conversation accepts media with captions as issue content, and the parser
puts captions and text bodies into the same field.  The pipeline combines the
texts of `text` messages and what it hears in voice notes, and no captions.
-/

namespace JanSetu.Whatsapp

open Pipeline (Degrade.runPipeline Degrade.entries Degrade.Borne
  Degrade.Described)
open Pipeline.Evidence (Entry Accounts IsTyped Yields combineIssueText)
open Python (ink strip)

/-- The text bodies and captions that are not blank, in arrival order. -/
def described (messages : List IssueMessage) : List String :=
  messages.filterMap fun message =>
    message.text.filter fun text => strip text ≠ ""

/-- The text mentions each of them, less the white space around it. -/
def Keeps (text : String) (descriptions : List String) : Prop :=
  Mentions text.toList
    (descriptions.map fun description => (strip description).toList)

/-- Only text messages say something. -/
def Uncaptioned (messages : List IssueMessage) : Prop :=
  ∀ message ∈ messages, message.type ≠ "text" →
    ∀ caption, message.text = some caption → strip caption = ""

/-! ## Described and combined -/

theorem described_cons_blank {message : IssueMessage}
    (blank : ∀ text, message.text = some text → strip text = "")
    (messages : List IssueMessage) :
    described (message :: messages) = described messages := by
  have dropped : (message.text.filter fun text => strip text ≠ "") = none := by
    rw [Option.filter_eq_none_iff]
    intro text body
    simpa using blank text body
  exact List.filterMap_cons_none dropped

theorem described_cons_inked {message : IssueMessage} {text : String}
    (body : message.text = some text) (inked : strip text ≠ "")
    (messages : List IssueMessage) :
    described (message :: messages) = text :: described messages := by
  have kept : (message.text.filter fun text => strip text ≠ "") = some text := by
    rw [Option.filter_eq_some_iff]
    exact ⟨body, by simpa using inked⟩
  exact List.filterMap_cons_some kept

theorem strip_ne_empty_of_described {messages : List IssueMessage}
    {text : String} (member : text ∈ described messages) :
    strip text ≠ "" := by
  obtain ⟨message, _, kept⟩ := List.mem_filterMap.mp member
  simpa using (Option.filter_eq_some_iff.mp kept).2

section

variable {settings : Pipeline.Evidence.Settings} {clips failures : Nat}
  {entries : List Entry} {texts : List String}
  {recordings : List Pipeline.Evidence.Recording}
  {languages : List Python.Json}

theorem blank_of_uncaptioned {message : IssueMessage}
    {messages : List IssueMessage}
    (only : Uncaptioned (message :: messages)) (untyped : ¬ IsTyped message) :
    ∀ text, message.text = some text → strip text = "" := by
  intro text body
  by_cases type : message.type = "text"
  · have falsy : Python.truthy message.text ≠ true :=
      fun truthy => untyped ⟨type, truthy⟩
    rw [body] at falsy
    have empty : text = "" := by simpa [Python.truthy] using falsy
    rw [empty]
    decide
  · exact only message (.head _) type text body

/-- Without captions, everything described is among the combined texts. -/
theorem described_sublist
    (accounts : Accounts settings clips entries texts recordings failures
      languages)
    (only : Uncaptioned (entries.map Prod.fst)) :
    List.SublistForall₂ (· <:+: ·)
      ((described (entries.map Prod.fst)).map fun description =>
        (strip description).toList)
      (texts.map String.toList) := by
  have later : ∀ {entry : Entry} {entries : List Entry},
      Uncaptioned ((entry :: entries).map Prod.fst) →
      Uncaptioned (entries.map Prod.fst) :=
    fun only message member => only message (.tail _ member)
  induction accounts with
  | nil => exact .nil
  | @typed _ _ _ text _ _ _ _ typed body _ induction =>
      by_cases blank : strip text = ""
      · rw [List.map_cons, described_cons_blank]
        · exact .cons_right (induction (later only))
        · intro other same
          cases body.symm.trans same
          exact blank
      · rw [List.map_cons, described_cons_inked body blank]
        exact .cons (Python.strip_part text) (induction (later only))
  | heard clip _ _ _ _ induction =>
      rw [List.map_cons, described_cons_blank
        (blank_of_uncaptioned only fun typed => typed.not_clip clip)]
      exact .cons_right (induction (later only))
  | failed unheard _ induction =>
      rw [List.map_cons, described_cons_blank
        (blank_of_uncaptioned only fun typed => typed.not_clip unheard.1)]
      exact induction (later only)
  | unsourced clip _ _ induction =>
      rw [List.map_cons, described_cons_blank
        (blank_of_uncaptioned only fun typed => typed.not_clip clip)]
      exact induction (later only)
  | skipped untyped _ _ induction =>
      rw [List.map_cons, described_cons_blank
        (blank_of_uncaptioned only untyped)]
      exact induction (later only)

/-! ## Counting -/

def textInk (message : IssueMessage) : Nat :=
  message.text.elim 0 ink

def captionInk (message : IssueMessage) : Nat :=
  if message.type = "text" then 0 else textInk message

theorem described_ink (messages : List IssueMessage) :
    ((described messages).map ink).sum = (messages.map textInk).sum := by
  induction messages with
  | nil => rfl
  | cons message messages induction =>
      rw [List.map_cons, List.sum_cons, ← induction]
      cases body : message.text with
      | none =>
          rw [described_cons_blank (by simp [body])]
          simp [textInk, body]
      | some text =>
          by_cases blank : strip text = ""
          · rw [described_cons_blank (by simpa [body] using blank)]
            simp [textInk, body, Python.ink_eq_zero.mpr blank]
          · rw [described_cons_inked body blank]
            simp [textInk, body]

/-- Where nothing is heard, the combined texts are short of the captions. -/
theorem combined_ink
    (accounts : Accounts settings clips entries texts recordings failures
      languages)
    (silent : ∀ entry ∈ entries, ∀ text language,
      ¬ Yields settings entry text language) :
    (texts.map ink).sum + ((entries.map Prod.fst).map captionInk).sum =
      ((entries.map Prod.fst).map textInk).sum := by
  have captioned : ∀ {message : IssueMessage}, ¬ IsTyped message →
      captionInk message = textInk message := by
    intro message untyped
    unfold captionInk
    split
    case isFalse => rfl
    case isTrue type =>
      cases body : message.text with
      | none => simp [textInk, body]
      | some text =>
          have empty : text = "" := by
            by_contra nonempty
            exact untyped ⟨type, by simp [body, Python.truthy, nonempty]⟩
          simp [textInk, body, empty, ink]
  have rest : ∀ {entry : Entry} {entries : List Entry},
      (∀ other ∈ entry :: entries, ∀ text language,
        ¬ Yields settings other text language) →
      ∀ other ∈ entries, ∀ text language,
        ¬ Yields settings other text language :=
    fun silent other member => silent other (.tail _ member)
  induction accounts with
  | nil => rfl
  | typed typed body _ induction =>
      have same := induction (rest silent)
      have none : captionInk _ = 0 := if_pos typed.1
      simp only [List.map_cons, List.sum_cons, none, textInk, body,
        Option.elim_some]
      omega
  | heard clip sourced delivers speaks _ _ =>
      exact absurd ⟨clip, sourced, ⟨_, _, delivers⟩, speaks⟩
        (silent _ (.head _) _ _)
  | failed unheard _ induction =>
      have same := induction (rest silent)
      have caption := captioned fun typed => typed.not_clip unheard.1
      simp only [List.map_cons, List.sum_cons, caption]
      omega
  | unsourced clip _ _ induction =>
      have same := induction (rest silent)
      have caption := captioned fun typed => typed.not_clip clip
      simp only [List.map_cons, List.sum_cons, caption]
      omega
  | skipped untyped _ _ induction =>
      have same := induction (rest silent)
      have caption := captioned untyped
      simp only [List.map_cons, List.sum_cons, caption]
      omega

end

/-! ## A combined text -/

section

variable {platform : Python.Platform}
  {settings : Pipeline.Evidence.Settings} {entries : List Entry}
  {issue : Pipeline.Evidence.IssueText}

theorem keeps_of_uncaptioned
    (done : combineIssueText platform settings entries = .ok issue)
    (only : Uncaptioned (entries.map Prod.fst)) :
    Keeps issue.text (described (entries.map Prod.fst)) := by
  obtain ⟨texts, _, _, _, accounts, text, _⟩ :=
    Pipeline.Evidence.combine_accounts done
  unfold Keeps
  rw [text]
  refine Python.mentions_lines ?_ (described_sublist accounts only)
  intro piece member
  obtain ⟨description, present, rfl⟩ := List.mem_map.mp member
  exact Python.trimmed_strip (strip_ne_empty_of_described present)

/-- A caption takes more ink than the combined text has. -/
theorem uncaptioned_of_keeps
    (done : combineIssueText platform settings entries = .ok issue)
    (silent : ∀ entry ∈ entries, ∀ text language,
      ¬ Yields settings entry text language)
    (keeps : Keeps issue.text (described (entries.map Prod.fst))) :
    Uncaptioned (entries.map Prod.fst) := by
  obtain ⟨texts, _, _, _, accounts, text, _⟩ :=
    Pipeline.Evidence.combine_accounts done
  have room := keeps.countP_le fun char => !Python.isSpace char
  have used : (((described (entries.map Prod.fst)).map fun description =>
        (strip description).toList).map
          (List.countP fun char => !Python.isSpace char)).sum =
      ((described (entries.map Prod.fst)).map ink).sum := by
    simp only [List.map_map, Function.comp_def, Python.countP_strip]
  have given : (issue.text.toList.countP fun char => !Python.isSpace char) =
      (texts.map ink).sum := by
    rw [text]
    exact (Python.ink_strip _).trans (Python.ink_intercalate texts)
  rw [used, given, described_ink, ← combined_ink accounts silent] at room
  have none : ((entries.map Prod.fst).map captionInk).sum = 0 := by omega
  intro message member type caption body
  have blank := List.sum_eq_zero_iff_forall_eq_nat.mp none _
    (List.mem_map_of_mem member)
  simp only [captionInk, type, if_false, textInk, body, Option.elim_some]
    at blank
  exact Python.ink_eq_zero.mp blank

end

/-! ## A run of the pipeline -/

/-- The same outcomes, but no voice note is transcribed. -/
def hushed (outcomes : Pipeline.Degrade.Outcomes) :
    Pipeline.Degrade.Outcomes :=
  { outcomes with
    clips := fun index => { outcomes.clips index with speech := .failed } }

section

variable {platform : Python.Platform} {settings : Pipeline.Degrade.Settings}
  {row : Grievance} {outcomes : Pipeline.Degrade.Outcomes}

theorem mem_hushed {entry : Entry}
    (member : entry ∈ Degrade.entries row (hushed outcomes)) :
    ∃ other ∈ Degrade.entries row outcomes,
      entry = (other.1, { other.2 with speech := .failed }) := by
  obtain ⟨index, bound, rfl⟩ := List.mem_mapIdx.mp member
  exact ⟨_, List.mem_mapIdx.mpr ⟨index, bound, rfl⟩, rfl⟩

theorem entries_fst (row : Grievance)
    (outcomes : Pipeline.Degrade.Outcomes) :
    (Degrade.entries row outcomes).map Prod.fst = row.issueMessages := by
  refine List.ext_getElem (by simp [Degrade.entries]) fun index _ _ => ?_
  simp [Degrade.entries]

theorem hushed_silent {evidence : Pipeline.Evidence.Settings} {entry : Entry}
    (member : entry ∈ Degrade.entries row (hushed outcomes)) (text : String)
    (language : Python.Json) : ¬ Yields evidence entry text language := by
  obtain ⟨other, _, rfl⟩ := mem_hushed member
  rintro ⟨_, _, _, _, body, ⟨response, answered, _⟩, _⟩
  cases answered

/-- What is borne is borne without the transcripts. -/
theorem borne_hushed
    (borne : Degrade.Borne platform settings row outcomes) :
    Degrade.Borne platform settings row (hushed outcomes) := by
  have described :
      Degrade.Described settings row (hushed outcomes) →
        Degrade.Described settings row outcomes := by
    rintro ⟨text, ⟨entry, member, worded⟩, inked⟩
    rcases worded with typed | ⟨language, yields⟩
    · obtain ⟨other, present, rfl⟩ := mem_hushed member
      exact ⟨text, ⟨other, present, .inl typed⟩, inked⟩
    · exact absurd yields (hushed_silent member text language)
  refine
    { clips := ?_
      texts := borne.texts
      address := borne.address
      photo := borne.photo
      answers := fun said => borne.answers (described said)
      model := fun said => borne.model (described said)
      language := ?_ }
  · intro entry member clip sourced
    obtain ⟨other, present, rfl⟩ := mem_hushed member
    obtain ⟨media, speech⟩ := borne.clips other present clip sourced
    refine ⟨media, fun content mimeType delivers key => ?_⟩
    have readable := speech content mimeType delivers key
    refine ⟨readable.mimeType, ?_, ?_⟩
    · rintro ⟨response, answered, _⟩
      cases answered
    · rintro body transcript ⟨response, answered, _⟩
      cases answered
  · intro languages spoken
    have none : languages = [] := by
      have silent : ∀ entry ∈ Degrade.entries row (hushed outcomes),
          ∀ text language,
            ¬ Yields settings.evidence entry text language :=
        fun entry member => hushed_silent member
      generalize Degrade.entries row (hushed outcomes) = entries
        at spoken silent
      induction spoken with
      | nil => rfl
      | heard yields _ _ => exact absurd yields (silent _ (.head _) _ _)
      | unheard _ _ induction =>
          exact induction fun other member => silent other (.tail _ member)
    rw [none]
    exact .inl rfl

/-- The combined text is what the run leaves on the grievance. -/
theorem run_issue {drafted : Pipeline.Degrade.Drafted}
    (done : Degrade.runPipeline platform settings row outcomes =
      .ok drafted) :
    combineIssueText platform settings.evidence
      (Degrade.entries row outcomes) = .ok drafted.issue := by
  unfold Degrade.runPipeline at done
  simp only [Python.bind_ok] at done
  obtain ⟨issue, combined, _, _, _, _, _, _, drafts⟩ := done
  obtain ⟨_, _, _, _, _, _, rfl⟩ := Pipeline.Degrade.draft_ok drafts
  exact combined

theorem row_issueText (drafted : Pipeline.Degrade.Drafted) (id : String) :
    (drafted.row settings id row).issueText = some drafted.issue.text := by
  have receipt : ∀ other : Grievance,
      (Pipeline.buildAndStorePdf settings.pipeline id other).issueText =
        other.issueText :=
    fun _ => rfl
  exact Pipeline.withReceipt_column settings.pipeline receipt drafted.status
    drafted.fields row

end

/-- The pipeline, whatever comes of its requests, leaves a text on the
grievance that keeps what the messages describe. -/
def KeepsDescriptions (platform : Python.Platform)
    (settings : Pipeline.Degrade.Settings) (id : String) (row : Grievance) :
    Prop :=
  ∀ outcomes drafted,
    Degrade.runPipeline platform settings row outcomes = .ok drafted →
    ∃ text, (drafted.row settings id row).issueText = some text ∧
      Keeps text (described row.issueMessages)

theorem keepsDescriptions_iff {platform : Python.Platform}
    {settings : Pipeline.Degrade.Settings} {id : String} {row : Grievance}
    (returns : ∃ outcomes, Python.Returns
      (Degrade.runPipeline platform settings row outcomes)) :
    KeepsDescriptions platform settings id row ↔
      Uncaptioned row.issueMessages := by
  constructor
  · intro keeps
    obtain ⟨outcomes, returns⟩ := returns
    have borne := borne_hushed (Pipeline.Degrade.returns_runPipeline.mp returns)
    obtain ⟨drafted, done⟩ :=
      Pipeline.Degrade.returns_runPipeline.mpr borne
    obtain ⟨text, stored, kept⟩ := keeps (hushed outcomes) drafted done
    rw [row_issueText, Option.some.injEq] at stored
    subst stored
    rw [← entries_fst row (hushed outcomes)] at kept ⊢
    exact uncaptioned_of_keeps (run_issue done)
      (fun entry member => hushed_silent member) kept
  · intro only outcomes drafted done
    refine ⟨_, row_issueText drafted id, ?_⟩
    rw [← entries_fst row outcomes] at only ⊢
    exact keeps_of_uncaptioned (run_issue done) only

/-! ## From the first message to the stored text -/

/-- A pipeline is started with the issue content that was accepted. -/
theorem Turn.starts_accepted {inbound : IncomingWhatsAppMessage}
    {geocode : Option ReverseGeocode} {now : Time}
    {state : Option ConversationState} {context next : Context}
    {after : ConversationState} {action : Option Action}
    {readings : List Reading}
    (turn : Turn inbound geocode now state context after next action)
    (starts : action = some .startPipeline)
    (faithful : Faithful state context readings) :
    next.issue.messages =
      accepted (readings ++ [{ state := state, inbound := inbound }]) := by
  have other : ¬ Reading.Accepts
      { state := some .awaitingPhoto, inbound := inbound } := by
    simp [Reading.Accepts]
  cases turn with
  | photoShared _ =>
      rw [accepted_append_other other]
      exact faithful.1.messages
  | photoSkipped _ _ =>
      rw [accepted_append_other other]
      exact faithful.1.messages
  | _ => cases starts

/-- Of whatever messages a conversation accepts as issue content, the text that
the pipeline stores keeps every text body and every caption in arrival order
exactly when none but text messages come with one. -/
theorem descriptions_kept_iff {dialogue : Dialogue}
    (reachable : dialogues.Reachable dialogue)
    {inbound : IncomingWhatsAppMessage} {geocode : Option ReverseGeocode}
    {now : Time} {result : FsmResult}
    (advanced : advance inbound.waId dialogue.state dialogue.context inbound
      geocode now = some result)
    (starts : result.action = some .startPipeline)
    {platform : Python.Platform} {settings : Pipeline.Degrade.Settings}
    (id humanId contactId : String) (conversationId userId : Option String)
    (draftedAt : Time) :
    let messages :=
      (accepted (dialogue.readings ++
        [{ state := dialogue.state, inbound := inbound }])).map
          Context.Message.toIssueMessage
    let draft := Pipeline.draftGrievance humanId contactId conversationId
      userId .whatsapp result.context.toDraft draftedAt
    (∃ outcomes, Python.Returns
      (Degrade.runPipeline platform settings draft outcomes)) →
    draft.issueMessages = messages ∧
      (KeepsDescriptions platform settings id draft ↔
        Uncaptioned messages) := by
  intro messages draft returns
  obtain ⟨turn, _⟩ := advance_turn advanced
  have same : draft.issueMessages = messages :=
    congrArg (List.map Context.Message.toIssueMessage)
      (turn.starts_accepted starts (isFaithful reachable))
  refine ⟨same, ?_⟩
  rw [← same]
  exact keepsDescriptions_iff returns

def sampleShot (caption : Option String) : IncomingWhatsAppMessage :=
  { sampleImage "m5" "photo1" with textBody := caption }

/-- An image between two lines of text. -/
def sampleDescriptions (caption : Option String) : List DialogueStep :=
  [sampleReceive (sampleText "m1" "hello"),
    sampleReceive (sampleLocation "m2" 28 77),
    sampleReceive (sampleTap "m3" "loc_confirm_yes:m2"),
    sampleReceive (sampleText "m4" "no water"),
    sampleReceive (sampleShot caption),
    sampleReceive (sampleText "m6" "since Monday"),
    sampleReceive (sampleTap "m7" "issue_done")]

def sampleDraft (caption : Option String) : Pipeline.DraftContext :=
  { lat := some 28
    lon := some 77
    displayAddress := none
    messages :=
      [sampleText "m4" "no water", sampleShot caption,
        sampleText "m6" "since Monday"].map fun inbound =>
          (issueMessage inbound).toIssueMessage
    photoMediaId := none }

/-- Every request fails. -/
def unanswered : Pipeline.Degrade.Outcomes :=
  { Pipeline.Degrade.contentless with
    replies := fun _ => { outcome := .failed, latencyMs := 0 } }

def sampleRun (caption : Option String) :
    Except Python.Raised Pipeline.Degrade.Drafted :=
  Degrade.runPipeline Pipeline.Evidence.plainPlatform
    Pipeline.Degrade.oneModel
    (Pipeline.draftGrievance "JS-1" "c1" none none .whatsapp
      (sampleDraft caption) 0) unanswered

/-- What the run of a draft with and without the caption ends with. -/
theorem sampleRun_text (captioned : Bool) :
    ∃ drafted,
      sampleRun (if captioned then some "in ward 12" else none) =
        .ok drafted ∧
      drafted.issue.text = "no water\nsince Monday" := by
  have ran : (sampleRun (if captioned then some "in ward 12" else
      none)).toOption.map (·.issue.text) =
        some "no water\nsince Monday" := by
    cases captioned <;> decide +kernel
  cases done : sampleRun (if captioned then some "in ward 12" else none) with
  | error raised => simp [done, Except.toOption] at ran
  | ok drafted =>
      refine ⟨drafted, rfl, ?_⟩
      simpa [done, Except.toOption] using ran

theorem sampleDescriptions_draft (captioned : Bool) :
    ∃ dialogue result, dialogues.Reachable dialogue ∧
      advance "919876543210" dialogue.state dialogue.context
        (sampleTap "m8" "photo_skip") none 0 = some result ∧
      result.action = some .startPipeline ∧
      result.context.toDraft =
        sampleDraft (if captioned then some "in ward 12" else none) := by
  have observed : (dialogues.run .start (sampleDescriptions
      (if captioned then some "in ward 12" else none))).map
      (fun dialogue => (advance "919876543210" dialogue.state dialogue.context
        (sampleTap "m8" "photo_skip") none 0).map fun result =>
          (result.action, result.context.toDraft)) =
        some (some (some .startPipeline,
          sampleDraft (if captioned then some "in ward 12" else none))) := by
    cases captioned <;> decide +kernel
  obtain ⟨dialogue, reachable, same⟩ :=
    Transition.System.reachable_of_run_map rfl observed
  obtain ⟨result, advanced, facts⟩ := Option.map_eq_some_iff.mp same
  simp only [Prod.mk.injEq] at facts
  exact ⟨dialogue, result, reachable, advanced, facts⟩

theorem uncaptioned_descriptions_kept :
    ∃ dialogue result, dialogues.Reachable dialogue ∧
      advance "919876543210" dialogue.state dialogue.context
        (sampleTap "m8" "photo_skip") none 0 = some result ∧
      KeepsDescriptions Pipeline.Evidence.plainPlatform
        Pipeline.Degrade.oneModel "g1"
        (Pipeline.draftGrievance "JS-1" "c1" none none .whatsapp
          result.context.toDraft 0) := by
  obtain ⟨dialogue, result, reachable, advanced, starts, draft⟩ :=
    sampleDescriptions_draft false
  obtain ⟨drafted, done, _⟩ := sampleRun_text false
  have returns : ∃ outcomes, Python.Returns
      (Degrade.runPipeline Pipeline.Evidence.plainPlatform
        Pipeline.Degrade.oneModel
        (Pipeline.draftGrievance "JS-1" "c1" none none .whatsapp
          result.context.toDraft 0) outcomes) :=
    ⟨unanswered, drafted, by rw [draft]; exact done⟩
  obtain ⟨stored, kept⟩ := descriptions_kept_iff reachable advanced starts
    "g1" "JS-1" "c1" none none 0 returns
  refine ⟨dialogue, result, reachable, advanced, kept.mpr ?_⟩
  rw [← stored, draft]
  intro message member other caption body
  simp only [Pipeline.draftGrievance, sampleDraft, List.map_cons,
    List.map_nil, List.mem_cons, List.not_mem_nil, or_false] at member
  rcases member with rfl | rfl | rfl
  · exact absurd rfl other
  · cases body
  · exact absurd rfl other

/-- The caption of the image is a description, and the text that the pipeline
stores goes without it. -/
theorem caption_dropped :
    ∃ dialogue result drafted, dialogues.Reachable dialogue ∧
      advance "919876543210" dialogue.state dialogue.context
        (sampleTap "m8" "photo_skip") none 0 = some result ∧
      result.action = some .startPipeline ∧
      (let draft := Pipeline.draftGrievance "JS-1" "c1" none none .whatsapp
        result.context.toDraft 0
      described draft.issueMessages =
          ["no water", "in ward 12", "since Monday"] ∧
        Degrade.runPipeline Pipeline.Evidence.plainPlatform
          Pipeline.Degrade.oneModel draft unanswered = .ok drafted ∧
        (drafted.row Pipeline.Degrade.oneModel "g1" draft).issueText =
          some "no water\nsince Monday" ∧
        ¬ Keeps "no water\nsince Monday" (described draft.issueMessages)) := by
  obtain ⟨dialogue, result, reachable, advanced, starts, draft⟩ :=
    sampleDescriptions_draft true
  obtain ⟨drafted, done, text⟩ := sampleRun_text true
  refine ⟨dialogue, result, drafted, reachable, advanced, starts, ?_⟩
  rw [if_pos rfl] at draft
  simp only [draft]
  have three : described (Pipeline.draftGrievance "JS-1" "c1" none none
      .whatsapp (sampleDraft (some "in ward 12")) 0).issueMessages =
        ["no water", "in ward 12", "since Monday"] := by
    decide +kernel
  refine ⟨three, done, ?_, ?_⟩
  · rw [row_issueText, text]
  · intro keeps
    rw [three] at keeps
    have room := keeps.countP_le fun _ => true
    revert room
    decide +kernel

end JanSetu.Whatsapp
