import Mathlib.Data.List.ReduceOption
import JanSetu.Library.Checks
import JanSetu.Pipeline.Evidence
import JanSetu.Python.Integers
import JanSetu.Web.Drafting

/-!
# The form of a complaint

What `create_draft` checks before its first transaction: the uploads with
`validate_upload`, the metadata of the voice notes, and that there is a
description.  What passes is the request that `Drafting` begins with.
-/

namespace JanSetu.Web

open Python (Json Raised Platform)

/-! ## Uploads -/

/-- A file of the form, as `UploadFile` has it. -/
structure UploadFile where
  filename : Option String
  contentType : Option String
  data : List UInt8
deriving DecidableEq

/-- The sizes of `config.py`. -/
structure UploadLimits where
  maxAudioBytes : Nat
  maxImageBytes : Nat
deriving DecidableEq

inductive UploadKind where
  | audio
  | image
deriving DecidableEq

def UploadKind.text : UploadKind → String
  | .audio => "audio"
  | .image => "image"

def audioMimeTypes : List String :=
  ["audio/ogg", "audio/opus", "audio/mpeg", "audio/mp3", "audio/wav",
    "audio/webm", "audio/mp4"]

def imageMimeTypes : List String :=
  ["image/jpeg", "image/png", "image/webp"]

def UploadKind.allowed : UploadKind → List String
  | .audio => audioMimeTypes
  | .image => imageMimeTypes

def UploadLimits.maxBytes (limits : UploadLimits) : UploadKind → Nat
  | .audio => limits.maxAudioBytes
  | .image => limits.maxImageBytes

/-- `normalize_mime_type` of a `str | None`. -/
def normalizeMimeType (mimeType : Option String) : Option String :=
  if Python.truthy mimeType then
    let essence :=
      Python.lower
        (Python.strip (Python.partition ';' (mimeType.getD "")).1)
    if essence = "" then none else some essence
  else none

inductive UploadError where
  | typeNotAllowed (kind : UploadKind) (mimeType : Option String)
  | tooLarge (kind : UploadKind) (sizeBytes maxBytes : Nat)
deriving DecidableEq

/-- The text of the exception, with `repr` for `!r`. -/
def UploadError.text (repr : Option String → String) : UploadError → String
  | .typeNotAllowed kind mimeType =>
      kind.text ++ " type " ++ repr mimeType ++ " is not allowed"
  | .tooLarge kind sizeBytes maxBytes =>
      kind.text ++ " upload of " ++ toString sizeBytes ++
        " bytes exceeds the " ++ toString maxBytes ++ " limit"

def validateUpload (limits : UploadLimits) (kind : UploadKind)
    (mimeType : Option String) (sizeBytes : Nat) : Except UploadError Unit :=
  if normalizeMimeType mimeType ∉ kind.allowed.map some then
    .error (.typeNotAllowed kind mimeType)
  else if limits.maxBytes kind < sizeBytes then
    .error (.tooLarge kind sizeBytes (limits.maxBytes kind))
  else .ok ()

/-! ## The form -/

/-- Why a request ends without a draft: an `HTTPException`, or what is raised
and not caught. -/
inductive Refusal where
  | http (status : Nat) (detail : String)
  | raised (raised : Raised)
deriving DecidableEq

/-- The citizen of the access token. -/
structure Citizen where
  userId : String
  contactId : Option String
deriving DecidableEq

/-- The form, with what FastAPI has checked of it. -/
structure ComplaintForm where
  lat : ℚ
  lon : ℚ
  text : Option String
  landmark : Option String
  photo : Option UploadFile
  audio : List UploadFile
  audioMetadata : List String
  latInRange : -90 ≤ lat ∧ lat ≤ 90
  lonInRange : -180 ≤ lon ∧ lon ≤ 180
  textLength : ∀ typed, text = some typed → typed.length ≤ 5000
  landmarkLength : ∀ typed, landmark = some typed → typed.length ≤ 300

/-- The request, and what is written for its uploads. -/
structure Admitted where
  request : DraftRequest
  clips : List (List UInt8)
  photo : Option (List UInt8)
deriving DecidableEq

def typedMessage (text : String) : IssueMessage :=
  { type := "text", text := some text, mediaId := none, mimeType := none
    localPath := none, recordingId := none, segmentIndex := none }

/-- Texts are typed, and voice notes have a type and a recording. -/
structure DraftRequest.WellFormed (request : DraftRequest) : Prop where
  typed : ∀ message ∈ request.textMessages,
    ∃ text, message = typedMessage text
  clips : ∀ clip ∈ request.audioClips,
    clip.mimeType ≠ "" ∧ clip.recordingId ≠ ""

/-- `text and text.strip()`, for what is filled in. -/
def filledIn (text : Option String) : Option String :=
  text.bind fun typed =>
    if Python.strip typed = "" then none else some (Python.strip typed)

section

variable (limits : UploadLimits) (platform : Platform)

/-- `repr` of a `str | None`. -/
def reprOf (text : Option String) : String :=
  platform.repr (text.elim .null .string)

/-- A file that is read up to one byte more than is allowed, and checked. -/
def readUpload (kind : UploadKind) (mimeType : String) (file : UploadFile) :
    Except Refusal (List UInt8) :=
  let data := file.data.take (limits.maxBytes kind + 1)
  match validateUpload limits kind (some mimeType) data.length with
  | .error failure => .error (.http 400 (failure.text (reprOf platform)))
  | .ok () => .ok data

def readPhoto (photo : Option UploadFile) :
    Except Refusal (Option (List UInt8)) :=
  match photo with
  | none => .ok none
  | some file =>
      if Python.truthy file.filename then
        let mimeType :=
          if Python.truthy file.contentType then file.contentType.getD ""
          else "image/jpeg"
        (readUpload limits platform .image mimeType file).map some
      else .ok none

def invalidMetadata : Refusal :=
  .http 422 "Voice note metadata is invalid."

/-- The recording and the index that a text names. -/
def loadMetadata (text : String) : Except Raised (String × ℤ) := do
  let metadata ← (platform.loads text).result
  let recordingId ← metadata.item "recording_id"
  let segment ← metadata.item "segment_index"
  let segmentIndex ← Python.intOf segment
  pure (platform.str recordingId, segmentIndex)

def parseMetadata (text : String) : Except Refusal (String × ℤ) :=
  match loadMetadata platform text with
  | .error raised =>
      if raised = .keyError ∨ raised = .typeError ∨ raised.isValueError then
        .error invalidMetadata
      else .error (.raised raised)
  | .ok (recordingId, segmentIndex) =>
      if 128 < recordingId.length ∨ recordingId = "" ∨ segmentIndex < 0 then
        .error invalidMetadata
      else .ok (recordingId, segmentIndex)

/-- A voice note with its metadata; an empty field of the form is passed
over. -/
def readClip (clip : UploadFile × String × ℤ) :
    Except Refusal (Option (AudioClip × List UInt8)) :=
  if Python.truthy clip.1.filename then
    let mimeType :=
      (normalizeMimeType clip.1.contentType).getD "audio/ogg"
    (readUpload limits platform .audio mimeType clip.1).map fun data =>
      some
        ({ mimeType := mimeType
           recordingId := clip.2.1
           segmentIndex := clip.2.2 }, data)
  else .ok none

def landmarkMessage (named : String) : IssueMessage :=
  typedMessage ("Nearby landmark: " ++ named)

/-- What the first transaction begins with; the landmark comes last. -/
def ComplaintForm.request (form : ComplaintForm) (citizen : Citizen)
    (contactId : String) (photo : Option (List UInt8))
    (clips : List (AudioClip × List UInt8)) : Admitted :=
  { request :=
      { contactId := contactId
        userId := citizen.userId
        lat := form.lat
        lon := form.lon
        textMessages :=
          (filledIn form.text).toList.map typedMessage ++
            (filledIn form.landmark).toList.map landmarkMessage
        audioClips := clips.map (·.1)
        hasPhoto := photo.isSome }
    clips := clips.map (·.2)
    photo := photo }

def ComplaintForm.accept (form : ComplaintForm) (citizen : Citizen) :
    Except Refusal Admitted :=
  match citizen.contactId with
  | none =>
      .error (.http 400
        "Account is not linked to a verified WhatsApp contact")
  | some contactId => do
      let photo ← readPhoto limits platform form.photo
      if form.audioMetadata.length ≠ form.audio.length then
        .error (.http 422
          "Each voice note requires its recording metadata.")
      else
        let metadata ← form.audioMetadata.mapM (parseMetadata platform)
        let read ←
          (form.audio.zip metadata).mapM (readClip limits platform)
        if filledIn form.text = none ∧ read.reduceOption = [] then
          .error (.http 400 "Provide a description (text or voice note).")
        else
          pure (form.request citizen contactId photo read.reduceOption)

end

/-! ## What is admitted -/

section

variable {limits : UploadLimits} {platform : Platform}
  {kind : UploadKind} {mimeType text recordingId : String}
  {segmentIndex : ℤ} {file : UploadFile} {data : List UInt8}
  {form : ComplaintForm} {citizen : Citizen} {admitted : Admitted}

/-- A file of an allowed type that is not too large is read as a whole. -/
theorem readUpload_ok :
    readUpload limits platform kind mimeType file = .ok data ↔
      normalizeMimeType (some mimeType) ∈ kind.allowed.map some ∧
        file.data.length ≤ limits.maxBytes kind ∧ data = file.data := by
  unfold readUpload validateUpload
  dsimp only
  rw [List.length_take]
  by_cases allowed :
      normalizeMimeType (some mimeType) ∈ kind.allowed.map some
  · rw [if_neg (not_not.mpr allowed)]
    by_cases large : limits.maxBytes kind < file.data.length
    · rw [if_pos (by omega)]
      simp only [reduceCtorEq, false_iff]
      omega
    · rw [if_neg (by omega), List.take_of_length_le (by omega)]
      simp only [Except.ok.injEq]
      constructor
      · rintro rfl
        exact ⟨allowed, by omega, rfl⟩
      · rintro ⟨_, _, rfl⟩
        rfl
  · rw [if_pos allowed]
    simp only [reduceCtorEq, false_iff]
    exact fun admitted => allowed admitted.1

theorem parseMetadata_ok :
    parseMetadata platform text = .ok (recordingId, segmentIndex) ↔
      loadMetadata platform text = .ok (recordingId, segmentIndex) ∧
        recordingId ≠ "" ∧ recordingId.length ≤ 128 ∧ 0 ≤ segmentIndex := by
  unfold parseMetadata
  cases loadMetadata platform text with
  | error raised =>
      dsimp only
      split <;> simp
  | ok loaded =>
      obtain ⟨loadedId, index⟩ := loaded
      dsimp only
      split
      case isTrue invalid =>
        simp only [reduceCtorEq, Except.ok.injEq, Prod.mk.injEq, false_iff]
        rintro ⟨⟨rfl, rfl⟩, named, short, nonnegative⟩
        rcases invalid with long | empty | negative
        · omega
        · exact named empty
        · omega
      case isFalse valid =>
        simp only [Except.ok.injEq, Prod.mk.injEq, not_or] at valid ⊢
        constructor
        · rintro ⟨rfl, rfl⟩
          exact ⟨⟨rfl, rfl⟩, valid.2.1, by omega, by omega⟩
        · exact fun both => both.1

theorem accept_ok :
    form.accept limits platform citizen = .ok admitted ↔
      ∃ contactId photo metadata read,
        citizen.contactId = some contactId ∧
        readPhoto limits platform form.photo = .ok photo ∧
        form.audioMetadata.length = form.audio.length ∧
        List.Forall₂ (fun text loaded =>
            parseMetadata platform text = .ok loaded)
          form.audioMetadata metadata ∧
        List.Forall₂ (fun clip heard =>
            readClip limits platform clip = .ok heard)
          (form.audio.zip metadata) read ∧
        ¬ (filledIn form.text = none ∧ read.reduceOption = []) ∧
        form.request citizen contactId photo read.reduceOption =
          admitted := by
  unfold ComplaintForm.accept
  cases citizen.contactId with
  | none => simp
  | some contactId =>
      simp only [Checks.bind_ok]
      constructor
      · rintro ⟨photo, pictured, rest⟩
        split at rest
        · cases rest
        case isFalse counted =>
          obtain ⟨metadata, loaded, rest⟩ := Checks.bind_ok.mp rest
          obtain ⟨read, heard, rest⟩ := Checks.bind_ok.mp rest
          split at rest
          · cases rest
          case isFalse described =>
            cases rest
            exact ⟨contactId, photo, metadata, read, rfl, pictured,
              not_not.mp counted, Checks.mapM_ok.mp loaded,
              Checks.mapM_ok.mp heard, described, rfl⟩
      · rintro ⟨_, photo, metadata, read, ⟨⟩, pictured, counted, loaded,
          heard, described, rfl⟩
        refine ⟨photo, pictured, ?_⟩
        rw [if_neg (not_not.mpr counted)]
        refine Checks.bind_ok.mpr ⟨metadata, Checks.mapM_ok.mpr loaded, ?_⟩
        refine Checks.bind_ok.mpr ⟨read, Checks.mapM_ok.mpr heard, ?_⟩
        rw [if_neg described]
        rfl

theorem mimeType_ne_empty {allowed : List String}
    (listed : normalizeMimeType (some mimeType) ∈ allowed.map some) :
    mimeType ≠ "" := by
  rintro rfl
  simp [normalizeMimeType, Python.truthy] at listed

/-- Whatever is sent, what is accepted is well formed. -/
theorem wellFormed_of_accept
    (passed : form.accept limits platform citizen = .ok admitted) :
    admitted.request.WellFormed := by
  obtain ⟨contactId, photo, metadata, read, _, _, _, loaded, heard, _, rfl⟩ :=
    accept_ok.mp passed
  constructor
  · intro message member
    rcases List.mem_append.mp member with typed | landmark
    · obtain ⟨text, _, rfl⟩ := List.mem_map.mp typed
      exact ⟨text, rfl⟩
    · obtain ⟨text, _, rfl⟩ := List.mem_map.mp landmark
      exact ⟨_, rfl⟩
  · intro clip member
    obtain ⟨entry, kept, rfl⟩ := List.mem_map.mp member
    have inside : some entry ∈ read := List.reduceOption_mem_iff.mp kept
    obtain ⟨⟨file, recordingId, segmentIndex⟩, given, passed⟩ :=
      Checks.exists_of_mem heard inside
    obtain ⟨text, _, named⟩ :=
      Checks.exists_of_mem loaded (List.of_mem_zip given).2
    unfold readClip at passed
    split at passed
    · obtain ⟨data, read, same⟩ := Checks.map_ok.mp passed
      cases same
      exact ⟨mimeType_ne_empty (readUpload_ok.mp read).1,
        (parseMetadata_ok.mp named).2.1⟩
    · cases passed

end

end JanSetu.Web
