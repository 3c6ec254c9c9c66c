import JanSetu.Web.Privacy

/-!
# The voice notes of the review

What the review lists of a complaint that was filed with voice notes: one for
each clip of the form, in their order, under the recording and the index that
they were sent with.  Each of the urls gives the owner a file that was written.
-/

namespace JanSetu.Web

open Pipeline
open Process (Recorded)

/-- How a clip is listed. -/
def AudioClip.listed (clip : AudioClip) : VoiceNoteMetadata :=
  { recordingId := clip.recordingId
    segmentIndex := clip.segmentIndex
    mimeType := clip.mimeType }

/-- The review lists every clip of the request, and plays a file that was
written for the upload. -/
structure Lists (uploadDir : String) (notes : List Note)
    (request : DraftRequest) (id : String) (row : Grievance) : Prop where
  metadata : voiceNoteMetadata row = request.audioClips.map (·.listed)
  urls : voiceNoteUrls id row =
    (List.range' request.textMessages.length request.audioClips.length).map
      fun index => "/api/grievances/" ++ id ++ "/audio/" ++ toString index
  played : ∀ position clip, request.audioClips[position]? = some clip →
    ∃ path, .uploaded path ∈ notes ∧
      ∀ (isFile : Python.Path → Bool) (user : Citizen),
        row.userId = some user.userId →
        isFile (artifactPath uploadDir (.ofText path)) = true →
        streamVoiceNote uploadDir isFile (some row) user
            (request.textMessages.length + position : ℕ) =
          .ok
            { path := artifactPath uploadDir (.ofText path)
              mediaType := clip.mimeType
              filename := none }

section

variable {notes : List Note} {clips : List AudioClip} {clip : AudioClip}
  {texts messages : List IssueMessage} {row : Grievance}
  {request : DraftRequest} {id uploadDir : String} {position : Nat}

theorem isVoiceNote_message {path : String} (located : path ≠ "") :
    isVoiceNote (clip.message path) = true := by
  simp [isVoiceNote, AudioClip.message, Python.truthy, located]

theorem Heard.isVoiceNote (heard : Heard notes clips messages)
    (located : ∀ path, .uploaded path ∈ notes → path ≠ "") :
    ∀ message ∈ messages, isVoiceNote message = true := by
  intro message member
  obtain ⟨clip, _, path, uploaded, rfl⟩ := Checks.exists_of_mem heard member
  exact isVoiceNote_message (located path uploaded)

theorem Heard.at (heard : Heard notes clips messages)
    (given : clips[position]? = some clip) :
    ∃ path, .uploaded path ∈ notes ∧
      messages[position]? = some (clip.message path) := by
  unfold Heard at heard
  induction heard generalizing position with
  | nil => cases given
  | @cons first message clips messages written _ induction =>
      cases position with
      | zero =>
          obtain ⟨path, uploaded, rfl⟩ := written
          cases given
          exact ⟨path, uploaded, rfl⟩
      | succ position => exact induction given

theorem Heard.listed (heard : Heard notes clips messages)
    (wellFormed : ∀ clip ∈ clips,
      clip.mimeType ≠ "" ∧ clip.recordingId ≠ "") (offset : Nat) :
    (messages.zipIdx offset).map
        (fun entry => voiceNoteMetadataOf entry.1 entry.2) =
      clips.map (·.listed) := by
  unfold Heard at heard
  induction heard generalizing offset with
  | nil => rfl
  | @cons first message clips messages written _ induction =>
      obtain ⟨path, _, rfl⟩ := written
      obtain ⟨typed, named⟩ := wellFormed first (.head _)
      rw [List.zipIdx_cons, List.map_cons, List.map_cons,
        induction (fun clip member => wellFormed clip (.tail _ member))]
      congr 1
      simp [voiceNoteMetadataOf, AudioClip.message, AudioClip.listed,
        Python.truthy, typed, named]

/-- The typed messages come first, and are no voice notes. -/
theorem voiceNotes_append
    (typed : ∀ message ∈ texts, ∃ text, message = typedMessage text)
    (heard : ∀ message ∈ messages, isVoiceNote message = true)
    (whole : row.issueMessages = texts ++ messages) :
    voiceNotes row = messages.zipIdx texts.length := by
  have silent : (texts.zipIdx 0).filter
      (fun entry => isVoiceNote entry.1) = [] := by
    rw [List.filter_eq_nil_iff]
    rintro ⟨message, index⟩ member
    obtain ⟨text, rfl⟩ := typed message (List.fst_mem_of_mem_zipIdx member)
    simp [isVoiceNote, typedMessage]
  have audible : (messages.zipIdx (0 + texts.length)).filter
      (fun entry => isVoiceNote entry.1) =
        messages.zipIdx (0 + texts.length) := by
    rw [List.filter_eq_self]
    rintro ⟨message, index⟩ member
    exact heard message (List.fst_mem_of_mem_zipIdx member)
  unfold voiceNotes
  rw [whole, List.zipIdx_append, List.filter_append, silent, audible,
    List.nil_append, Nat.zero_add]

theorem streamVoiceNote_message {path : String} {isFile : Python.Path → Bool}
    {user : Citizen} (own : row.userId = some user.userId)
    (given : row.issueMessages[position]? = some (clip.message path))
    (typed : clip.mimeType ≠ "") (located : path ≠ "")
    (there : isFile (artifactPath uploadDir (.ofText path)) = true) :
    streamVoiceNote uploadDir isFile (some row) user position =
      .ok
        { path := artifactPath uploadDir (.ofText path)
          mediaType := clip.mimeType
          filename := none } := by
  obtain ⟨inside, _⟩ := List.getElem?_eq_some_iff.mp given
  refine Checks.bind_ok.mpr ⟨row, requireOwner_ok.mpr ⟨rfl, own⟩, ?_⟩
  rw [if_neg (by omega), Int.toNat_natCast, given]
  dsimp only
  rw [if_pos (isVoiceNote_message located)]
  have stored : Python.truthy (clip.message path).localPath = true := by
    simp [AudioClip.message, Python.truthy, located]
  have type : Python.truthy (clip.message path).mimeType = true := by
    simp [AudioClip.message, Python.truthy, typed]
  unfold sendFile
  rw [if_pos stored]
  show (if isFile (artifactPath uploadDir (.ofText path)) = true then _
    else _) = _
  rw [if_pos there, if_pos type]
  rfl

end

/-! ## Runs -/

section

variable {settings : Pipeline.Settings} {geometry : Geometry}
  {admissible : Grievance → Prop}
  {world : World (Recorded Backend Note) Actor} {id path : String}

theorem uploadPath_ne_empty (settings : Pipeline.Settings)
    (id name : String) : uploadPath settings id name ≠ "" := by
  simp [uploadPath]

theorem uploaded_ne_empty
    {allowed : World (Recorded Backend Note) Actor →
      Process.Label Ask Choice → Prop}
    (reached : (recordedDrafting settings geometry
      admissible).system.ReachableWhen allowed world)
    (uploaded : .uploaded path ∈ world.shared.notes) : path ≠ "" := by
  let located : Note → Prop := fun note =>
    ∀ path, note = .uploaded path → path ≠ ""
  have every : ∀ note ∈ world.shared.notes, located note := by
    refine Process.Program.notes_every ?_ ?_ reached
    · rintro actor choice note taken path rfl
      unfold Actor.note at taken
      split at taken
      case h_2 | h_3 =>
        cases taken
        exact uploadPath_ne_empty _ _ _
      case h_5 =>
        obtain ⟨_, _, same⟩ := Option.map_eq_some_iff.mp taken
        cases same
      all_goals cases taken
    · intro recorded initial note member
      rw [initial] at member
      cases member
  exact every _ uploaded path rfl

/-- Once its evidence is committed, a complaint is listed for the review with
every voice note of its form. -/
theorem voice_notes_listed {limits : UploadLimits}
    {platform : Python.Platform} {form : ComplaintForm} {citizen : Citizen}
    {admitted : Admitted}
    (reached : (recordedDrafting settings geometry
      admissible).system.ReachableWhen Uninterrupted world)
    (passed : form.accept limits platform citizen = .ok admitted)
    (drafted : .drafted id admitted.request ∈ world.shared.notes)
    (stored : .stored id ∈ world.shared.notes) :
    world.shared.shared.store.Has id
      (Lists settings.uploadDir world.shared.notes admitted.request id) := by
  have wellFormed := wellFormed_of_accept passed
  have located : ∀ path, .uploaded path ∈ world.shared.notes → path ≠ "" :=
    fun path uploaded => uploaded_ne_empty reached uploaded
  have consistent : Consistent world.shared := (drafts_hold reached).1
  obtain ⟨row, found, references⟩ := (consistent.whole id _ drafted stored).1
  obtain ⟨audio, heard, whole⟩ := references.messages
  have notes := voiceNotes_append wellFormed.typed
    (heard.isVoiceNote located) whole
  have length : audio.length = admitted.request.audioClips.length :=
    (List.Forall₂.length_eq heard).symm
  refine ⟨row, found, ?_, ?_, ?_⟩
  · unfold voiceNoteMetadata
    rw [notes]
    exact heard.listed wellFormed.clips _
  · unfold voiceNoteUrls
    rw [notes, ← length, ← List.zipIdx_map_snd, List.map_map]
    rfl
  · intro position clip given
    obtain ⟨path, uploaded, note⟩ := heard.at given
    refine ⟨path, uploaded, ?_⟩
    intro isFile user own there
    refine streamVoiceNote_message own ?_
      (wellFormed.clips clip (List.mem_of_getElem? given)).1
      (located path uploaded) there
    rw [whole, List.getElem?_append_right (Nat.le_add_right _ _),
      Nat.add_sub_cancel_left]
    exact note

end

/-! ## The voice note of a complaint is listed -/

theorem voice_notes_listed_one :
    ∃ world : World (Recorded Backend Note) Actor, world.Quiet ∧
      world.shared.shared.store.Has "g"
        (Lists defaultSettings.uploadDir world.shared.notes voicedRequest
          "g") := by
  obtain ⟨world, reached, quiet, notes⟩ := voiced_served
  have inside : ∀ note ∈ [Note.stored "g", .drafted "g" voicedRequest],
      note ∈ world.shared.notes := by
    rw [notes]
    decide
  exact ⟨world, quiet, voice_notes_listed reached voicedForm_accepted
    (inside _ (by simp)) (inside _ (by simp))⟩

end JanSetu.Web
