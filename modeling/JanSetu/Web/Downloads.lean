import JanSetu.Pipeline.Artifacts
import JanSetu.Web.Forms

/-!
# Reading the evidence again

The endpoints that give a citizen the files of a complaint: its voice notes,
its photo and its receipt.  All of them ask for the owner, and look the stored
path up below the upload root.
-/

namespace JanSetu.Web

open Pipeline
open Python (Path PathName)

/-! ## The endpoints -/

structure FileResponse where
  path : Path
  mediaType : String
  filename : Option String
deriving DecidableEq

/-- `_require_owner`. -/
def requireOwner (grievance : Option Grievance) (user : Citizen) :
    Except Refusal Grievance :=
  match grievance with
  | none => .error (.http 404 "Grievance not found")
  | some row =>
      if row.userId = some user.userId then .ok row
      else .error (.http 404 "Grievance not found")

def isVoiceNote (message : IssueMessage) : Bool :=
  (message.type = "audio" || message.type = "voice") &&
    Python.truthy message.localPath

/-- The voice notes with their indices in `issue_messages`. -/
def voiceNotes (row : Grievance) : List (IssueMessage × Nat) :=
  row.issueMessages.zipIdx.filter fun entry => isVoiceNote entry.1

/-- `_voice_note_urls`. -/
def voiceNoteUrls (id : String) (row : Grievance) : List String :=
  (voiceNotes row).map fun entry =>
    "/api/grievances/" ++ id ++ "/audio/" ++ toString entry.2

structure VoiceNoteMetadata where
  recordingId : String
  segmentIndex : ℤ
  mimeType : String
deriving DecidableEq

def voiceNoteMetadataOf (message : IssueMessage) (index : Nat) :
    VoiceNoteMetadata :=
  { recordingId :=
      if Python.truthy message.recordingId then
        message.recordingId.getD ""
      else "legacy-" ++ toString (index + 1)
    segmentIndex := message.segmentIndex.getD 0
    mimeType :=
      if Python.truthy message.mimeType then message.mimeType.getD ""
      else "audio/webm" }

/-- `_voice_note_metadata`. -/
def voiceNoteMetadata (row : Grievance) : List VoiceNoteMetadata :=
  (voiceNotes row).map fun entry => voiceNoteMetadataOf entry.1 entry.2

section

variable (uploadDir : String) (isFile : Path → Bool)
  (guessType : String → Option String)

/-- The end of each endpoint: the stored path is resolved, and the file sent
if it is there. -/
def sendFile (stored : Option String) (absent missing : String)
    (mediaType : Path → String) (filename : Option String) :
    Except Refusal FileResponse :=
  if Python.truthy stored then
    let path := artifactPath uploadDir (.ofText (stored.getD ""))
    if isFile path then
      .ok { path := path, mediaType := mediaType path, filename := filename }
    else .error (.http 404 missing)
  else .error (.http 404 absent)

def streamVoiceNote (grievance : Option Grievance) (user : Citizen)
    (messageIndex : ℤ) : Except Refusal FileResponse := do
  let row ← requireOwner grievance user
  if messageIndex < 0 ∨ row.issueMessages.length ≤ messageIndex then
    .error (.http 404 "Voice note not found")
  else
    match row.issueMessages[messageIndex.toNat]? with
    | none => .error (.http 404 "Voice note not found")
    | some message =>
        sendFile uploadDir isFile
          (if isVoiceNote message then message.localPath else none)
          "Voice note not found" "Voice note is unavailable"
          (fun _ =>
            if Python.truthy message.mimeType then message.mimeType.getD ""
            else "audio/webm")
          none

def downloadPhoto (grievance : Option Grievance) (user : Citizen) :
    Except Refusal FileResponse := do
  let row ← requireOwner grievance user
  sendFile uploadDir isFile row.photoPath "No photo attached"
    "Photo artifact is unavailable"
    (fun path => (guessType path.name).getD "image/jpeg") none

def downloadPdf (grievance : Option Grievance) (user : Citizen) :
    Except Refusal FileResponse := do
  let row ← requireOwner grievance user
  sendFile uploadDir isFile row.pdfPath "PDF not generated yet"
    "PDF artifact is unavailable" (fun _ => "application/pdf")
    (some (row.humanId ++ ".pdf"))

end

/-- What is asked of a complaint. -/
inductive Download where
  | voiceNote (messageIndex : ℤ)
  | photo
  | pdf
deriving DecidableEq

def Download.answer (uploadDir : String) (isFile : Path → Bool)
    (guessType : String → Option String) (grievance : Option Grievance)
    (user : Citizen) : Download → Except Refusal FileResponse
  | .voiceNote messageIndex =>
      streamVoiceNote uploadDir isFile grievance user messageIndex
  | .photo => downloadPhoto uploadDir isFile guessType grievance user
  | .pdf => downloadPdf uploadDir isFile grievance user

/-! ## What is sent -/

/-- A path that the row holds. -/
inductive Stores (row : Grievance) (path : String) : Prop where
  | voiceNote {message : IssueMessage} :
      message ∈ row.issueMessages → message.localPath = some path →
      Stores row path
  | photo : row.photoPath = some path → Stores row path
  | pdf : row.pdfPath = some path → Stores row path

section

variable {uploadDir : String} {isFile : Path → Bool}
  {guessType : String → Option String} {grievance : Option Grievance}
  {row : Grievance} {user : Citizen} {response : FileResponse}

theorem requireOwner_ok :
    requireOwner grievance user = .ok row ↔
      grievance = some row ∧ row.userId = some user.userId := by
  unfold requireOwner
  cases grievance with
  | none => simp
  | some stored =>
      dsimp only
      split
      case isTrue own =>
        constructor
        · rintro ⟨⟩
          exact ⟨rfl, own⟩
        · rintro ⟨⟨⟩, _⟩
          rfl
      case isFalse foreign =>
        constructor
        · rintro ⟨⟩
        · rintro ⟨⟨⟩, own⟩
          exact absurd own foreign

theorem sendFile_ok {stored : Option String} {absent missing : String}
    {mediaType : Path → String} {filename : Option String}
    (sent : sendFile uploadDir isFile stored absent missing mediaType
      filename = .ok response) :
    ∃ path, stored = some path ∧
      response.path = artifactPath uploadDir (.ofText path) := by
  unfold sendFile at sent
  cases stored with
  | none => cases sent
  | some path =>
      dsimp only at sent
      split at sent
      · split at sent
        · cases sent
          exact ⟨path, rfl, rfl⟩
        · cases sent
      · cases sent

/-- Only the owner is sent a file, and it is one that the row holds. -/
theorem Download.answer_ok {download : Download}
    (sent : download.answer uploadDir isFile guessType grievance user =
      .ok response) :
    ∃ row path, grievance = some row ∧ row.userId = some user.userId ∧
      Stores row path ∧
      response.path = artifactPath uploadDir (.ofText path) := by
  cases download with
  | voiceNote messageIndex =>
      obtain ⟨row, owned, rest⟩ := Checks.bind_ok.mp sent
      obtain ⟨found, own⟩ := requireOwner_ok.mp owned
      split at rest
      · cases rest
      · split at rest
        · cases rest
        case h_2 message at? =>
          obtain ⟨path, stored, resolved⟩ := sendFile_ok rest
          refine ⟨row, path, found, own, ?_, resolved⟩
          split at stored
          · exact .voiceNote (List.mem_of_getElem? at?) stored
          · cases stored
  | photo =>
      obtain ⟨row, owned, rest⟩ := Checks.bind_ok.mp sent
      obtain ⟨found, own⟩ := requireOwner_ok.mp owned
      obtain ⟨path, stored, resolved⟩ := sendFile_ok rest
      exact ⟨row, path, found, own, .photo stored, resolved⟩
  | pdf =>
      obtain ⟨row, owned, rest⟩ := Checks.bind_ok.mp sent
      obtain ⟨found, own⟩ := requireOwner_ok.mp owned
      obtain ⟨path, stored, resolved⟩ := sendFile_ok rest
      exact ⟨row, path, found, own, .pdf stored, resolved⟩

end

/-! ## The paths of the uploads -/

/-- The file that `save_upload` writes. -/
def filePath (settings : Pipeline.Settings) (id name : String) : Path :=
  ((Path.ofText settings.uploadDir).joinpath (.ofText id)).joinpath
    (.ofText name)

/-- A path in the directory of a complaint. -/
def Below (settings : Pipeline.Settings) (id path : String) : Prop :=
  ∃ name, FileName name ∧ path = uploadPath settings id name

section

variable {settings : Pipeline.Settings} {id name other otherName : String}

theorem filePath_names (settings : Pipeline.Settings)
    (idNamed : FileName id) (named : FileName name) :
    ∃ first last : PathName, first.text = id ∧ last.text = name ∧
      filePath settings id name =
        { root := (Path.ofText settings.uploadDir).root
          names := (Path.ofText settings.uploadDir).names ++
            [first, last] } := by
  obtain ⟨first, rfl, _⟩ := idNamed.exists_name
  obtain ⟨last, rfl, _⟩ := named.exists_name
  exact ⟨first, last, rfl, rfl, joinpath_names _⟩

/-- The path that is stored is that of the file. -/
theorem ofText_uploadPath
    (rooted : (Path.ofText settings.uploadDir).names ≠ [])
    (idNamed : FileName id) (named : FileName name) :
    Path.ofText (uploadPath settings id name) =
      filePath settings id name := by
  obtain ⟨first, rfl, _⟩ := idNamed.exists_name
  obtain ⟨last, rfl, _⟩ := named.exists_name
  have directory := Path.ofText_extend first rooted
  have below : (Path.ofText
      (settings.uploadDir ++ "/" ++ first.text)).names ≠ [] := by
    rw [directory, Path.joinpath_name]
    simp
  unfold uploadPath filePath
  rw [Path.ofText_extend last below, directory]

theorem artifactPath_filePath (idNamed : FileName id)
    (named : FileName name) :
    artifactPath settings.uploadDir (filePath settings id name) =
      filePath settings id name := by
  obtain ⟨first, rfl, _⟩ := idNamed.exists_name
  obtain ⟨last, rfl, _⟩ := named.exists_name
  have relative : filePath settings first.text last.text =
      (Path.ofText settings.uploadDir).joinpath
        { root := .relative, names := [first, last] } := by
    rw [Path.joinpath_relative rfl]
    exact joinpath_names _
  rw [relative]
  exact artifactPath_joinpath rfl

/-- Complaints have directories of their own. -/
theorem filePath_inj (idNamed : FileName id) (named : FileName name)
    (otherIdNamed : FileName other) (otherNamed : FileName otherName)
    (same : filePath settings id name = filePath settings other otherName) :
    id = other ∧ name = otherName := by
  obtain ⟨first, last, rfl, rfl, path⟩ :=
    filePath_names settings idNamed named
  obtain ⟨first', last', rfl, rfl, path'⟩ :=
    filePath_names settings otherIdNamed otherNamed
  rw [path, path'] at same
  have names := List.append_cancel_left (congrArg Path.names same)
  simp only [List.cons.injEq, and_true] at names
  exact ⟨congrArg PathName.text names.1, congrArg PathName.text names.2⟩

end

end JanSetu.Web
