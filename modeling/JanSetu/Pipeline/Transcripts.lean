import JanSetu.Pipeline.Hearing

/-!
# What the combined text accounts for

`_combine_issue_text` keeps four accumulators and a count of the voice notes,
and leaves its loop body in five ways.  `Accounts` says what each message adds
to them by what came of it, and a loop that does not raise ends with exactly
these sums.
-/

namespace JanSetu.Pipeline.Evidence

open Python (Json Platform)

/-- What the messages add up to: the texts, the transcript entries, the number
of voice notes with a source that yielded no text, and the languages that came
with the texts.  `clips` counts the voice notes before them. -/
inductive Accounts (settings : Settings) :
    Nat → List Entry → List String → List Recording → Nat → List Json →
      Prop where
  | nil {clips : Nat} : Accounts settings clips [] [] [] 0 []
  | typed {clips failures : Nat} {entry : Entry} {text : String}
      {entries : List Entry} {texts : List String}
      {recordings : List Recording} {languages : List Json} :
      IsTyped entry.1 → entry.1.text = some text →
      Accounts settings clips entries texts recordings failures languages →
      Accounts settings clips (entry :: entries) (text :: texts) recordings
        failures languages
  | heard {clips failures : Nat} {entry : Entry} {content : List UInt8}
      {text : String} {language mimeType : Json} {entries : List Entry}
      {texts : List String} {recordings : List Recording}
      {languages : List Json} :
      IsClip entry.1 → Sourced entry.1 →
      ClipDelivers entry content mimeType →
      Speaks settings entry.2.speech text language →
      Accounts settings (clips + 1) entries texts recordings failures
        languages →
      Accounts settings clips (entry :: entries) (text :: texts)
        (recordingOf entry.1 (clips + 1) (.string text) language mimeType ::
          recordings)
        failures (language :: languages)
  | failed {clips failures : Nat} {entry : Entry} {entries : List Entry}
      {texts : List String} {recordings : List Recording}
      {languages : List Json} :
      Unheard settings entry →
      Accounts settings (clips + 1) entries texts recordings failures
        languages →
      Accounts settings clips (entry :: entries) texts recordings
        (failures + 1) languages
  | unsourced {clips failures : Nat} {entry : Entry} {entries : List Entry}
      {texts : List String} {recordings : List Recording}
      {languages : List Json} :
      IsClip entry.1 → ¬ Sourced entry.1 →
      Accounts settings (clips + 1) entries texts recordings failures
        languages →
      Accounts settings clips (entry :: entries) texts recordings failures
        languages
  | skipped {clips failures : Nat} {entry : Entry} {entries : List Entry}
      {texts : List String} {recordings : List Recording}
      {languages : List Json} :
      ¬ IsTyped entry.1 → ¬ IsClip entry.1 →
      Accounts settings clips entries texts recordings failures languages →
      Accounts settings clips (entry :: entries) texts recordings failures
        languages

section

variable {platform : Platform} {settings : Settings} {entries : List Entry}

/-- The sums are determined by what came of the messages. -/
theorem Accounts.unique {clips failures failures' : Nat}
    {texts texts' : List String} {recordings recordings' : List Recording}
    {languages languages' : List Json}
    (first : Accounts settings clips entries texts recordings failures
      languages)
    (second : Accounts settings clips entries texts' recordings' failures'
      languages') :
    texts = texts' ∧ recordings = recordings' ∧ failures = failures' ∧
      languages = languages' := by
  induction first generalizing texts' recordings' failures' languages' with
  | nil =>
      cases second with
      | nil => exact ⟨rfl, rfl, rfl, rfl⟩
  | typed typed same _ induction =>
      cases second with
      | typed _ same' rest =>
          obtain ⟨rfl, rfl, rfl, rfl⟩ := induction rest
          cases same.symm.trans same'
          exact ⟨rfl, rfl, rfl, rfl⟩
      | heard clip _ _ _ _ => exact absurd clip typed.not_clip
      | failed unheard _ => exact absurd unheard.1 typed.not_clip
      | unsourced clip _ _ => exact absurd clip typed.not_clip
      | skipped untyped _ _ => exact absurd typed untyped
  | heard clip sourced delivers speaks _ induction =>
      cases second with
      | typed typed _ _ => exact absurd clip typed.not_clip
      | heard _ _ delivers' speaks' rest =>
          obtain ⟨rfl, rfl, rfl, rfl⟩ := induction rest
          obtain ⟨_, rfl⟩ := delivers.unique delivers'
          obtain ⟨rfl, rfl⟩ := speaks.unique speaks'
          exact ⟨rfl, rfl, rfl, rfl⟩
      | failed unheard _ =>
          exact absurd ⟨clip, sourced, ⟨_, _, delivers⟩, speaks⟩
            (unheard.2.2 _ _)
      | unsourced _ unsourced _ => exact absurd sourced unsourced
      | skipped _ unclipped _ => exact absurd clip unclipped
  | failed unheard _ induction =>
      cases second with
      | typed typed _ _ => exact absurd unheard.1 typed.not_clip
      | heard clip sourced delivers speaks _ =>
          exact absurd ⟨clip, sourced, ⟨_, _, delivers⟩, speaks⟩
            (unheard.2.2 _ _)
      | failed _ rest =>
          obtain ⟨rfl, rfl, rfl, rfl⟩ := induction rest
          exact ⟨rfl, rfl, rfl, rfl⟩
      | unsourced _ unsourced _ => exact absurd unheard.2.1 unsourced
      | skipped _ unclipped _ => exact absurd unheard.1 unclipped
  | unsourced clip unsourced _ induction =>
      cases second with
      | typed typed _ _ => exact absurd clip typed.not_clip
      | heard _ sourced _ _ _ => exact absurd sourced unsourced
      | failed unheard _ => exact absurd unheard.2.1 unsourced
      | unsourced _ _ rest => exact induction rest
      | skipped _ unclipped _ => exact absurd clip unclipped
  | skipped untyped unclipped _ induction =>
      cases second with
      | typed typed _ _ => exact absurd typed untyped
      | heard clip _ _ _ _ => exact absurd clip unclipped
      | failed unheard _ => exact absurd unheard.1 unclipped
      | unsourced clip _ _ => exact absurd clip unclipped
      | skipped _ _ rest => exact induction rest

/-- The accumulators at the end of the loop, from any that it starts with. -/
theorem combined_accounts
    (borne : ∀ entry ∈ entries, EntryBorne platform settings entry)
    (state : Combining) :
    ∃ texts recordings failures languages,
      Accounts settings state.audioIndex entries texts recordings failures
        languages ∧
      (combined platform settings entries state).parts =
        state.parts ++ texts.map Json.string ∧
      (combined platform settings entries state).transcripts =
        state.transcripts ++ recordings ∧
      (combined platform settings entries state).flags =
        state.flags ++ List.replicate failures "transcription_failed" ∧
      (combined platform settings entries state).detectedLanguage =
        languages.foldl Json.orElse state.detectedLanguage := by
  induction entries generalizing state with
  | nil => exact ⟨[], [], 0, [], .nil, by simp [combined]⟩
  | cons entry entries induction =>
      obtain ⟨_, reads⟩ := reads_of_borne (borne entry (.head _))
      have later := induction fun other member => borne other (.tail _ member)
      have split : ∀ reading,
          readingOf platform settings entry = reading →
          combined platform settings (entry :: entries) state =
            combined platform settings entries
              (state.read entry.1 reading) := by
        rintro reading rfl
        rfl
      generalize read : readingOf platform settings entry = reading at reads
      rw [split reading read]
      obtain ⟨texts, recordings, failures, languages, accounts, parts,
        transcripts, flags, language⟩ := later (state.read entry.1 reading)
      rw [parts, transcripts, flags, language]
      cases reads with
      | typed typed same =>
          exact ⟨_, _, _, _, .typed typed same accounts,
            by simp [Combining.read]⟩
      | heard clip sourced delivers speaks =>
          exact ⟨_, _, _, _, .heard clip sourced delivers speaks accounts,
            by simp [Combining.read]⟩
      | failed unheard =>
          exact ⟨_, _, _, _, .failed unheard accounts,
            by simp [Combining.read, List.replicate_succ]⟩
      | unsourced clip unsourced =>
          exact ⟨_, _, _, _, .unsourced clip unsourced accounts,
            by simp [Combining.read]⟩
      | skipped untyped unclipped =>
          exact ⟨_, _, _, _, .skipped untyped unclipped accounts,
            by simp [Combining.read]⟩

theorem filterMap_text_string (texts : List String) :
    (texts.map Json.string).filterMap Json.text = texts := by
  rw [List.filterMap_map]
  exact List.filterMap_some

/-- Without a language among them, what is settled on is none. -/
theorem settled_eq (languages : List Json) :
    (∀ language, languages.find? Json.truthy = some language →
        settled languages = language) ∧
      (languages.find? Json.truthy = none →
        (settled languages).truthy = false) := by
  constructor
  · intro language found
    simp [settled, found]
  · intro missing
    have empty := List.find?_eq_none.mp missing
    simp only [settled, missing, Option.getD_none]
    cases last : languages.getLast? with
    | none => simp [List.getLastD_eq_getLast?, last, Json.truthy]
    | some language =>
        have member := List.mem_of_getLast? last
        simpa [List.getLastD_eq_getLast?, last] using empty language member

/-- Messages that are combined without raising end with their sums. -/
theorem combine_accounts {issue : IssueText}
    (done : combineIssueText platform settings entries = .ok issue) :
    ∃ texts recordings failures languages,
      Accounts settings 0 entries texts recordings failures languages ∧
      issue.text = Python.strip (String.intercalate "\n" texts) ∧
      issue.transcripts = recordings ∧
      issue.flags = List.replicate failures "transcription_failed" ∧
      issue.detectedLanguage = settled languages := by
  have borne := returns_combineIssueText.mp ⟨issue, done⟩
  obtain ⟨texts, recordings, failures, languages, accounts, parts,
    transcripts, flags, language⟩ := combined_accounts borne .start
  have chosen : (combined platform settings entries .start).detectedLanguage =
      settled languages := by
    rw [language]
    exact foldl_orElse .null languages
  refine ⟨texts, recordings, failures, languages, accounts, ?_⟩
  rw [combine_state done]
  simp only [parts, transcripts, flags, chosen]
  refine ⟨?_, rfl, rfl, trivial⟩
  rw [List.filterMap_append, filterMap_text_string]
  rfl

/-- Messages that are combined without raising: every typed text and every
text of a voice note once and in order, an entry for each of the latter with
its recording and its segment, a flag for each voice note that failed, and the
first language that was detected. -/
theorem combined_text_accounts {issue : IssueText}
    (done : combineIssueText platform settings entries = .ok issue) :
    ∃ texts recordings failures languages,
      Accounts settings 0 entries texts recordings failures languages ∧
      issue.text = Python.strip (String.intercalate "\n" texts) ∧
      issue.transcripts = recordings ∧
      issue.flags = List.replicate failures "transcription_failed" ∧
      (∀ language, languages.find? Json.truthy = some language →
        issue.detectedLanguage = language) ∧
      (languages.find? Json.truthy = none →
        issue.detectedLanguage.truthy = false) := by
  obtain ⟨texts, recordings, failures, languages, accounts, text,
    transcripts, flags, chosen⟩ := combine_accounts done
  obtain ⟨first, nothing⟩ := settled_eq languages
  rw [← chosen] at first nothing
  exact ⟨texts, recordings, failures, languages, accounts, text, transcripts,
    flags, first, nothing⟩

end

/-- No text is decoded, and every text is a URL. -/
def plainPlatform : Platform :=
  { loads := fun _ => .notJson
    repr := fun _ => ""
    floatOfText := fun _ => none
    casefold := id
    validUrl := fun _ => true }

def speechSettings : Settings :=
  { whatsappAccessToken := some "token", whatsappGraphApiVersion := "v25.0"
    sarvamApiKey := some "key" }

def spoken (transcript : String) (language : Json) : Python.Outcome :=
  .answered
    { status := 200
      body := .value (.object
        [("transcript", .string transcript), ("language_code", language)])
      content := [] }

def voiceNote (localPath mediaId recordingId : Option String) :
    IssueMessage :=
  { type := "audio", text := none, mediaId := mediaId
    mimeType := some "audio/webm", localPath := localPath
    recordingId := recordingId, segmentIndex := recordingId.map fun _ => 2 }

/-- A typed text, and voice notes that are heard without a language, lost,
without a source and heard in Hindi. -/
def fiveMessages : List Entry :=
  let unread : ClipOutcomes :=
    { read := none, media := { lookup := .failed, download := .failed }
      speech := .failed }
  let saved : List UInt8 := [1]
  [({ voiceNote none none none with type := "text", text := some " no light " },
      unread),
    (voiceNote (some "a.webm") none (some "r1"),
      { unread with read := some saved, speech := spoken "since Monday" .null }),
    (voiceNote none (some "media") none, unread),
    (voiceNote none none none, unread),
    (voiceNote (some "b.webm") none none,
      { unread with
        read := some saved, speech := spoken "in ward 12" (.string "hi-IN") })]

theorem five_messages_combined :
    ∃ issue, combineIssueText plainPlatform speechSettings fiveMessages =
        .ok issue ∧
      issue.text = "no light \nsince Monday\nin ward 12" ∧
      issue.flags = ["transcription_failed"] ∧
      (∃ texts recordings failures languages,
        Accounts speechSettings 0 fiveMessages texts recordings failures
          languages ∧ failures = 1 ∧ issue.transcripts = recordings) := by
  have ran : ∃ issue,
      combineIssueText plainPlatform speechSettings fiveMessages =
        .ok issue ∧
      issue.text = "no light \nsince Monday\nin ward 12" ∧
      issue.flags = ["transcription_failed"] :=
    ⟨_, rfl, by decide +kernel, rfl⟩
  obtain ⟨issue, done, text, flags⟩ := ran
  obtain ⟨texts, recordings, failures, languages, accounts, _, transcripts,
    flagged, _⟩ := combined_text_accounts done
  refine ⟨issue, done, text, flags, texts, recordings, failures, languages,
    accounts, ?_, transcripts⟩
  have counted := congrArg List.length (flagged.symm.trans flags)
  simpa using counted

end JanSetu.Pipeline.Evidence
