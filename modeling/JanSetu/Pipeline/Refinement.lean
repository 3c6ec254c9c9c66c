import JanSetu.Pipeline.Degrade

/-!
# The run over outcomes and the run over results

The other modules take the results of the requests as given.  A run over
outcomes that returns leaves the row that they compute from its results.
-/

namespace JanSetu.Pipeline.Degrade

open Python (Json Raised Platform Returns)
open Evidence (EntryBorne Reads Reading readingOf localMimeType ofText)

variable {platform : Platform} {settings : Settings} {row : Grievance}
  {outcomes : Outcomes}

/-! ## Voice notes -/

/-- The result of a voice note, by its place among the voice notes. -/
def clipOf : Reading → List Clip
  | .skipped => []
  | .typed _ => []
  | .unsourced => [.unreadable]
  | .failed => [.untranscribed]
  | .heard text language mimeType =>
      [.transcribed (text.text.getD "") language.text
        (mimeType.text.getD "")]

def clipsOf (platform : Platform) (settings : Evidence.Settings)
    (entries : List Evidence.Entry) : List Clip :=
  entries.flatMap fun entry => clipOf (readingOf platform settings entry)

/-- The accumulators of the two runs agree.  A language that is no text but is
kept as the language of the complaint has no counterpart: the row refuses
it. -/
structure Agrees (results : Combining) (heard : Evidence.Combining) :
    Prop where
  parts : heard.parts = results.parts.map Json.string
  language :
    (heard.detectedLanguage.truthy = true ∧
      heard.detectedLanguage.text = none) ∨
    results.detectedLanguage = heard.detectedLanguage.text
  flags : results.flags = heard.flags
  transcripts : results.transcripts = heard.transcripts.map recorded
  audioIndex : results.audioIndex = heard.audioIndex

theorem truthy_text {value : Json}
    (textual : ¬ (value.truthy = true ∧ value.text = none)) :
    Python.truthy value.text = value.truthy := by
  cases value with
  | string text => rfl
  | _ =>
      cases truthy : Json.truthy _ with
      | false => exact rfl
      | true => exact absurd ⟨truthy, rfl⟩ textual

theorem recorded_language (language : Json) :
    ((language.orElse (.string "und")).text).getD "und" =
      if Python.truthy language.text then language.text.getD "" else "und" := by
  cases language with
  | string text =>
      by_cases empty : text = ""
      · subst empty
        rfl
      · simp [Json.orElse, Json.truthy, Json.text, Python.truthy, empty]
  | _ =>
      simp only [Json.orElse]
      split <;> rfl

/-- The result that the next voice note finds in its place. -/
theorem next_clip {clips rest : List Clip} {first : Clip} {index : Nat}
    (next : clips.drop index = first :: rest) :
    clips.getD index .unreadable = first ∧ clips.drop (index + 1) = rest := by
  have head := congrArg List.head? next
  have tail := congrArg List.tail next
  simp only [List.head?_drop, List.head?_cons] at head
  simp only [List.tail_drop, List.tail_cons] at tail
  exact ⟨by simp [List.getD, head], tail⟩

theorem message_of_clip {clips : List Clip} {state : Combining}
    {message : IssueMessage} (clip : Evidence.IsClip message)
    (sourced : Evidence.Sourced message) :
    state.message clips message =
      match clips.getD state.audioIndex .unreadable with
      | .unreadable => state.failed
      | .untranscribed => state.failed
      | .transcribed text language downloaded =>
          if text = "" then state.failed
          else
            let mimeType :=
              if ¬ Python.truthy message.localPath then downloaded
              else if Python.truthy message.mimeType then
                message.mimeType.getD ""
              else "audio/ogg"
            state.hear message text language mimeType := by
  have untyped : ¬ (message.type = "text" ∧
      Python.truthy message.text = true) :=
    fun typed => Evidence.IsTyped.not_clip typed clip
  have spoken : ¬ (message.type ≠ "audio" ∧ message.type ≠ "voice") := by
    rcases clip with audio | voice
    · exact fun other => other.1 audio
    · exact fun other => other.2 voice
  have source : ¬ (¬ Python.truthy message.localPath ∧
      ¬ Python.truthy message.mediaId) := by
    rcases sourced with file | media
    · exact fun none => none.1 file
    · exact fun none => none.2 media
  unfold Combining.message
  rw [if_neg untyped, if_neg spoken]
  simp only
  exact if_neg source

/-- One message, with its voice note at the front of the results. -/
theorem Agrees.message {results : Combining} {heard : Evidence.Combining}
    {entry : Evidence.Entry} {reading : Reading} {clips rest : List Clip}
    (agrees : Agrees results heard)
    (reads : Reads settings.evidence entry reading)
    (next : clips.drop results.audioIndex = clipOf reading ++ rest) :
    Agrees (results.message clips entry.1) (heard.read entry.1 reading) ∧
      clips.drop (results.message clips entry.1).audioIndex = rest := by
  cases reads with
  | typed typed same =>
      have said : results.message clips entry.1 =
          { results with
            parts := results.parts ++ [entry.1.text.getD ""] } := by
        unfold Combining.message
        exact if_pos typed
      rw [said, same]
      refine ⟨⟨?_, agrees.language, agrees.flags, agrees.transcripts,
        agrees.audioIndex⟩, next⟩
      simp [Evidence.Combining.read, agrees.parts]
  | skipped untyped unclipped =>
      have said : results.message clips entry.1 = results := by
        unfold Combining.message
        have other : entry.1.type ≠ "audio" ∧ entry.1.type ≠ "voice" :=
          ⟨fun audio => unclipped (.inl audio),
            fun voice => unclipped (.inr voice)⟩
        exact (if_neg untyped).trans (if_pos other)
      rw [said]
      exact ⟨agrees, next⟩
  | unsourced clip unsourced =>
      have untyped : ¬ (entry.1.type = "text" ∧
          Python.truthy entry.1.text = true) :=
        fun typed => Evidence.IsTyped.not_clip typed clip
      have spoken : ¬ (entry.1.type ≠ "audio" ∧ entry.1.type ≠ "voice") := by
        rcases clip with audio | voice
        · exact fun other => other.1 audio
        · exact fun other => other.2 voice
      have none : ¬ Python.truthy entry.1.localPath ∧
          ¬ Python.truthy entry.1.mediaId :=
        ⟨fun file => unsourced (.inl file),
          fun media => unsourced (.inr media)⟩
      have said : results.message clips entry.1 =
          { results with audioIndex := results.audioIndex + 1 } := by
        unfold Combining.message
        rw [if_neg untyped, if_neg spoken]
        exact if_pos none
      rw [said]
      refine ⟨⟨agrees.parts, agrees.language, agrees.flags,
        agrees.transcripts, ?_⟩, (next_clip next).2⟩
      simp [Evidence.Combining.read, agrees.audioIndex]
  | failed unheard =>
      obtain ⟨first, after⟩ := next_clip next
      have said : results.message clips entry.1 = results.failed := by
        rw [message_of_clip unheard.1 unheard.2.1, first]
      rw [said]
      refine ⟨⟨agrees.parts, agrees.language, ?_, agrees.transcripts, ?_⟩,
        after⟩
      · simp [Evidence.Combining.read, Combining.failed, agrees.flags]
      · simp [Evidence.Combining.read, Combining.failed, agrees.audioIndex]
  | @heard content text language mimeType clip sourced delivers speaks =>
      obtain ⟨first, after⟩ := next_clip next
      obtain ⟨_, _, _, _, some, _⟩ := speaks
      have mime : (if ¬ Python.truthy entry.1.localPath then
            mimeType.text.getD ""
          else if Python.truthy entry.1.mimeType then
            entry.1.mimeType.getD ""
          else "audio/ogg") = mimeType.text.getD "" := by
        unfold Evidence.ClipDelivers at delivers
        by_cases isLocal : Python.truthy entry.1.localPath = true
        · rw [if_pos isLocal] at delivers
          rw [if_neg (by simpa using isLocal), delivers.2]
          rfl
        · rw [if_pos isLocal]
      have said : results.message clips entry.1 =
          results.hear entry.1 text language.text (mimeType.text.getD "") := by
        rw [message_of_clip clip sourced, first]
        have saying : (Json.string text).text.getD "" = text := rfl
        simp only [saying, if_neg some, mime]
      rw [said]
      refine ⟨⟨?_, ?_, agrees.flags, ?_, ?_⟩, after⟩
      · simp [Evidence.Combining.read, Combining.hear, agrees.parts]
      · simp only [Evidence.Combining.read, Combining.hear]
        rcases agrees.language with kept | same
        · refine .inl ?_
          rw [Json.orElse, if_pos kept.1]
          exact kept
        · by_cases textual : heard.detectedLanguage.truthy = true ∧
              heard.detectedLanguage.text = none
          · refine .inl ?_
            rw [Json.orElse, if_pos textual.1]
            exact textual
          · refine .inr ?_
            rw [same, truthy_text textual]
            unfold Json.orElse
            cases heard.detectedLanguage.truthy <;> rfl
      · simp only [Evidence.Combining.read, Combining.hear, List.map_append,
          List.map_cons, List.map_nil, agrees.transcripts, recorded,
          Evidence.recordingOf, recorded_language, agrees.audioIndex]
        rfl
      · simp [Evidence.Combining.read, Combining.hear, agrees.audioIndex]

/-- All messages, with the results of their voice notes in order. -/
theorem Agrees.messages {entries : List Evidence.Entry} {results : Combining}
    {heard : Evidence.Combining} {clips : List Clip}
    (borne : ∀ entry ∈ entries,
      EntryBorne platform settings.evidence entry)
    (agrees : Agrees results heard)
    (next : clips.drop results.audioIndex =
      clipsOf platform settings.evidence entries) :
    Agrees
      ((entries.map (·.1)).foldl (Combining.message clips) results)
      (Evidence.combined platform settings.evidence entries heard) := by
  induction entries generalizing results heard with
  | nil => exact agrees
  | cons entry entries induction =>
      obtain ⟨_, reads⟩ := Evidence.reads_of_borne (borne entry (.head _))
      have front : clips.drop results.audioIndex =
          clipOf (readingOf platform settings.evidence entry) ++
            clipsOf platform settings.evidence entries := by
        simpa [clipsOf] using next
      obtain ⟨after, rest⟩ := agrees.message reads front
      exact induction (fun other member => borne other (.tail _ member))
        after rest

/-! ## The row -/

/-- The results of a run: of its voice notes, its address, its photo and its
extraction. -/
def workOf (platform : Platform) (settings : Settings) (row : Grievance)
    (outcomes : Outcomes) (location : Option String)
    (photo : Option (List UInt8))
    (extraction : Classify.StructuredExtraction) : PipelineWork :=
  { clips := clipsOf platform settings.evidence (entries row outcomes)
    displayAddress := location
    photoRead := photo.isSome
    extraction := extracted extraction }

theorem entries_messages :
    (entries row outcomes).map (·.1) = row.issueMessages := by
  apply List.ext_getElem
  · simp [entries]
  · intro index _ _
    simp [entries]

theorem texts_of_strings (texts : List String) :
    (texts.map Json.string).filterMap Json.text = texts := by
  induction texts with
  | nil => rfl
  | cons text texts induction => simp [Json.text, induction]

theorem textColumn_text {limit : Option Nat} {value : Json}
    {stored : Option String}
    (written : Evidence.textColumn limit value = .ok stored) :
    stored = value.text ∧ ¬ (value.truthy = true ∧ value.text = none) := by
  cases value with
  | null =>
      cases written
      exact ⟨rfl, by simp [Json.truthy]⟩
  | string text =>
      simp only [Evidence.textColumn] at written
      split at written
      · cases written
        exact ⟨rfl, by simp [Json.text]⟩
      · cases written
  | _ => cases written

theorem address_of_location {location : Option String}
    {work : PipelineWork} (same : work.displayAddress = location)
    (found : address row outcomes.geocode = .ok (ofText location)) :
    RunPipeline.address row work = location := by
  unfold RunPipeline.address
  unfold address at found
  have known : ∀ {text other : Option String},
      (Except.ok (ofText text) : Except Raised Json) =
        .ok (ofText other) → text = other := by
    intro text other equal
    cases text <;> cases other <;> simp_all [ofText]
  split
  next truthy =>
      rw [if_pos truthy] at found
      exact known found
  next falsy =>
      rw [if_neg falsy] at found
      split
      · exact same
      next missing =>
          rw [if_neg missing] at found
          exact known found

theorem truthy_ofText (text : Option String) :
    (ofText text).truthy = Python.truthy text := by
  cases text <;> rfl

theorem fetchPhoto_eq {photo : Option (List UInt8)}
    (fetched : Evidence.fetchPhoto platform settings.evidence row
      outcomes.photo = .ok photo) :
    Pipeline.fetchPhoto row photo.isSome = photo.isSome := by
  unfold Pipeline.fetchPhoto
  cases photo with
  | none => simp
  | some content =>
      cases path : Python.truthy row.photoPath with
      | true => rfl
      | false =>
          cases media : Python.truthy row.photoMediaId with
          | true => rfl
          | false =>
              simp [Evidence.fetchPhoto, path, media] at fetched

/-- The messages combined over outcomes and over results. -/
theorem issue_refines {issue : Evidence.IssueText} {stored : Option String}
    (combined : Evidence.combineIssueText platform settings.evidence
      (entries row outcomes) = .ok issue)
    (spoken : Evidence.textColumn (some 16) issue.detectedLanguage =
      .ok stored) :
    combineIssueText row.issueMessages
        (clipsOf platform settings.evidence (entries row outcomes)) =
      { text := issue.text, detectedLanguage := stored, flags := issue.flags
        transcripts := issue.transcripts.map recorded } := by
  have borne := Evidence.returns_combineIssueText.mp ⟨issue, combined⟩
  have start : Agrees
      { parts := [], detectedLanguage := none, flags := [], transcripts := []
        audioIndex := 0 }
      .start := ⟨rfl, .inr rfl, rfl, rfl, rfl⟩
  have agrees := start.messages borne (List.drop_zero)
  rw [entries_messages] at agrees
  rw [Evidence.combine_state combined] at spoken ⊢
  obtain ⟨rfl, textual⟩ := textColumn_text spoken
  have language := agrees.language.resolve_left textual
  simp only [combineIssueText]
  rw [agrees.parts, texts_of_strings, agrees.flags, agrees.transcripts,
    language]

/-- A run over outcomes that returns leaves the row that is computed from its
results. -/
theorem runPipeline_refines {drafted : Drafted}
    (done : runPipeline platform settings row outcomes = .ok drafted) :
    ∃ work text,
      Pipeline.originalText row.issueMessages = some text ∧
      drafted.fields row =
        RunPipeline.fields work
          (resolveRoute outcomes.routes (some work.extraction.categoryId)
            (jurisdictionOf row) outcomes.now)
          text row := by
  rcases gathered_cases platform settings row outcomes with
    ⟨_, _, _, issue, location, photo, hasImage, gathered⟩ | ⟨_, raises⟩
  · rw [gathered.runPipeline_eq] at done
    obtain ⟨extraction, _, done⟩ := Python.bind_ok.mp done
    obtain ⟨text, stored, language, original, located, spoken, rfl⟩ :=
      draft_ok done
    obtain ⟨rfl, _⟩ := textColumn_text located
    have issued := issue_refines gathered.combined spoken
    have known : RunPipeline.address row
        (workOf platform settings row outcomes location photo extraction) =
        location := address_of_location rfl gathered.addressed
    have stored : (ofText location).text = location := by
      cases location <;> rfl
    have seen := fetchPhoto_eq gathered.fetched
    refine ⟨workOf platform settings row outcomes location photo extraction,
      text, original, ?_⟩
    have policy : RunPipeline.policy row
        (workOf platform settings row outcomes location photo extraction) =
        evaluateRoutingPolicy (some extraction.categoryId) extraction.safety
          extraction.assetScope (ofText location).truthy := by
      rw [RunPipeline.policy, known, truthy_ofText]
      rfl
    have verdict : RunPipeline.imageMatchStatus row
        (workOf platform settings row outcomes location photo extraction) =
        imageMatchStatus photo extraction := by
      simp only [RunPipeline.imageMatchStatus, workOf, seen]
      rfl
    have flagged : RunPipeline.flags row
        (workOf platform settings row outcomes location photo extraction) =
        flags issue.flags photo extraction
          (evaluateRoutingPolicy (some extraction.categoryId)
            extraction.safety extraction.assetScope
            (ofText location).truthy) := by
      rw [RunPipeline.flags, policy]
      simp only [workOf, seen, issued]
      rfl
    simp only [RunPipeline.fields, Drafted.fields, RunPipeline.nextStatus,
      known, policy, verdict, flagged, stored]
    simp only [workOf, issued]
    rfl
  · exact absurd ⟨drafted, done⟩ raises

end JanSetu.Pipeline.Degrade
