import JanSetu.Frontend.Clips
import JanSetu.Web.Forms

/-!
# The complaint that the page sends

`formData` of `pages/NewComplaint.tsx` with what the page has checked before:
the voice notes of the recorder and a photo of `components/PhotoUpload.tsx`.
What is sent passes `create_draft`, with every voice note under the recording
and index that the recorder gave it.
-/

namespace JanSetu.Frontend

open Python (Json Platform)
open Web (Admitted Citizen ComplaintForm UploadFile UploadLimits)

/-! ## The photo -/

inductive PhotoError where
  | photoTypeError
  | photoSizeError
deriving DecidableEq

/-- `choose` of `PhotoUpload`. -/
def choosePhoto (file : File) : Except PhotoError File :=
  if file.type ∉ ["image/jpeg", "image/png", "image/webp"] then
    .error .photoTypeError
  else if 5 * 1024 * 1024 < file.data.length then .error .photoSizeError
  else .ok file

/-! ## The form -/

/-- White space and line ends of `String.prototype.trim`. -/
def isTrimmed (char : Char) : Bool :=
  char.toNat ∈
    [9, 10, 11, 12, 13, 32, 160, 5760, 8192, 8193, 8194, 8195, 8196, 8197,
      8198, 8199, 8200, 8201, 8202, 8232, 8233, 8239, 8287, 12288, 65279]

def trim (text : String) : String :=
  String.ofList
    ((text.toList.dropWhile isTrimmed).reverse.dropWhile isTrimmed).reverse

/-- The line ends of a text in `multipart/form-data`. -/
def crlfChars : List Char → List Char
  | [] => []
  | '\r' :: '\n' :: chars => '\r' :: '\n' :: crlfChars chars
  | '\r' :: chars => '\r' :: '\n' :: crlfChars chars
  | '\n' :: chars => '\r' :: '\n' :: crlfChars chars
  | char :: chars => char :: crlfChars chars

def crlf (text : String) : String :=
  String.ofList (crlfChars text.toList)

/-- The page when it sends its form.  The lengths are those of its inputs, of
which the landmark has one line; the photo is one that was chosen. -/
structure NewComplaint where
  lat : ℚ
  lon : ℚ
  description : String
  landmark : String
  clips : List VoiceClip
  photo : Option File
  descriptionLength : description.length ≤ 2000
  landmarkLength : landmark.length ≤ 160
  landmarkLine : '\r' ∉ landmark.toList ∧ '\n' ∉ landmark.toList
  photoChosen : ∀ file, photo = some file →
    file.name ≠ "" ∧ choosePhoto file = .ok file

def File.upload (file : File) : UploadFile :=
  { filename := some file.name
    contentType := some file.type
    data := file.data }

/-- The object whose text goes with a clip. -/
def VoiceClip.metadata (clip : VoiceClip) : Json :=
  .object
    [("recording_id", .string clip.recordingId),
      ("segment_index", .int clip.segmentIndex),
      ("mime_type", .string clip.file.type)]

/-- A text field, which is left out when it is blank. -/
def textField (text : String) : Option String :=
  if trim text = "" then none else some (crlf (trim text))

theorem length_crlfChars (chars : List Char) :
    (crlfChars chars).length ≤ 2 * chars.length := by
  fun_induction crlfChars chars <;> simp_all <;> omega

theorem crlfChars_of_line {chars : List Char}
    (line : '\r' ∉ chars ∧ '\n' ∉ chars) : crlfChars chars = chars := by
  fun_induction crlfChars chars <;> simp_all

theorem trim_sublist (text : String) :
    (trim text).toList.Sublist text.toList := by
  unfold trim
  rw [String.toList_ofList]
  have front := List.dropWhile_sublist isTrimmed (l := text.toList)
  have back := List.dropWhile_sublist isTrimmed
    (l := (text.toList.dropWhile isTrimmed).reverse)
  exact (List.reverse_sublist.mpr back |>.trans (by simpa using front))

theorem length_trim (text : String) : (trim text).length ≤ text.length := by
  rw [← String.length_toList, ← String.length_toList]
  exact (trim_sublist text).length_le

theorem length_crlf (text : String) :
    (crlf text).length ≤ 2 * text.length := by
  rw [crlf, String.length_ofList, ← String.length_toList]
  exact length_crlfChars text.toList

theorem crlf_of_line {text : String}
    (line : '\r' ∉ text.toList ∧ '\n' ∉ text.toList) : crlf text = text := by
  rw [crlf, crlfChars_of_line line, String.ofList_toList]

/-- A landmark has one line, also when it is trimmed. -/
theorem crlf_trim_of_line {text : String}
    (line : '\r' ∉ text.toList ∧ '\n' ∉ text.toList) :
    crlf (trim text) = trim text := by
  have inside := (trim_sublist text).subset
  exact crlf_of_line
    ⟨fun member => line.1 (inside member), fun member => line.2 (inside member)⟩

theorem textField_eq {text typed : String}
    (filled : textField text = some typed) : typed = crlf (trim text) := by
  unfold textField at filled
  split at filled
  · cases filled
  · exact (Option.some.inj filled).symm

/-- The marker is at a place that the endpoint takes.  The page does not see to
it: a map that is dragged around the world gives longitudes past 180. -/
structure NewComplaint.Placed (page : NewComplaint) : Prop where
  lat : -90 ≤ page.lat ∧ page.lat ≤ 90
  lon : -180 ≤ page.lon ∧ page.lon ≤ 180

/-- `formData`, as the endpoint gets it. -/
def NewComplaint.form (stringify : Json → String) (page : NewComplaint)
    (placed : page.Placed) : ComplaintForm :=
  { lat := page.lat
    lon := page.lon
    text := textField page.description
    landmark := textField page.landmark
    photo := page.photo.map File.upload
    audio := page.clips.map fun clip => clip.file.upload
    audioMetadata := page.clips.map fun clip => stringify clip.metadata
    latInRange := placed.lat
    lonInRange := placed.lon
    textLength := by
      intro typed filled
      have most := length_crlf (trim page.description)
      have less := length_trim page.description
      have bound := page.descriptionLength
      rw [textField_eq filled]
      omega
    landmarkLength := by
      intro typed filled
      have less := length_trim page.landmark
      have bound := page.landmarkLength
      rw [textField_eq filled, crlf_trim_of_line page.landmarkLine]
      omega }

/-! ## The type of what is recorded -/

/-- The type of every clip that the browser records. -/
def Browser.blobType (browser : Browser) : String :=
  if browser.mimeTypeOf browser.pickMimeType ≠ "" then
    browser.mimeTypeOf browser.pickMimeType
  else
    match browser.pickMimeType with
    | some requested => if requested ≠ "" then requested else "audio/webm"
    | none => "audio/webm"

/-- A file as the browser records it. -/
structure Browser.Records (browser : Browser) (file : File) : Prop where
  type : file.type = browser.blobType
  named : file.name ≠ ""

namespace VoiceRecorder

/-- Every recorder was given the type that is asked for, and every clip was
recorded so. -/
structure Typed (browser : Browser) (page : VoiceRecorder) : Prop where
  requested : ∀ recorder ∈ page.recorders,
    recorder.requestedType = browser.pickMimeType ∧
      recorder.mimeType = browser.mimeTypeOf browser.pickMimeType
  pending : ∀ clip ∈ page.pendingClips, browser.Records clip.file
  clips : ∀ clip ∈ page.clips, browser.Records clip.file

variable {browser : Browser} {page next : VoiceRecorder} {session : Session}
  {id : Nat} {recorder after : MediaRecorder} {failure : Option StartFailure}

/-- Another recorder may be as it was, but for its state. -/
theorem Typed.of_parts (typed : page.Typed browser)
    (recorders : ∀ recorder ∈ next.recorders, ∃ earlier ∈ page.recorders,
      recorder.requestedType = earlier.requestedType ∧
        recorder.mimeType = earlier.mimeType)
    (pending : ∀ clip ∈ next.pendingClips, clip ∈ page.pendingClips)
    (clips : ∀ clip ∈ next.clips, clip ∈ page.clips ++ page.pendingClips) :
    next.Typed browser := by
  constructor
  · intro recorder member
    obtain ⟨earlier, was, requested, mimeType⟩ := recorders recorder member
    rw [requested, mimeType]
    exact typed.requested earlier was
  · exact fun clip member => typed.pending clip (pending clip member)
  · intro clip member
    rcases List.mem_append.mp (clips clip member) with old | pending
    · exact typed.clips clip old
    · exact typed.pending clip pending

theorem Typed.of_same (typed : page.Typed browser)
    (recorders : next.recorders = page.recorders)
    (pending : next.pendingClips = page.pendingClips)
    (clips : next.clips = page.clips) : next.Typed browser := by
  constructor
  · rw [recorders]
    exact typed.requested
  · rw [pending]
    exact typed.pending
  · rw [clips]
    exact typed.clips

theorem Typed.setRecorder (typed : page.Typed browser)
    (found : page.recorders[id]? = some recorder)
    (requested : after.requestedType = recorder.requestedType)
    (mimeType : after.mimeType = recorder.mimeType) :
    Typed browser (page.setRecorder id after) := by
  refine typed.of_parts ?_ (fun _ member => member)
    (fun _ member => List.mem_append_left _ member)
  intro other member
  rcases List.mem_or_eq_of_mem_set member with old | rfl
  · exact ⟨other, old, rfl, rfl⟩
  · exact ⟨recorder, List.mem_of_getElem? found, requested, mimeType⟩

theorem Typed.finishSession (typed : page.Typed browser) :
    (page.finishSession browser session).Typed browser := by
  unfold VoiceRecorder.finishSession
  dsimp only
  split
  · refine typed.of_parts (fun recorder member => ?_) (by simp) ?_
    · exact ⟨recorder, member, rfl, rfl⟩
    · exact fun clip member => member
  · exact typed.of_same rfl rfl rfl

theorem Typed.startSegment {throws : Bool} (typed : page.Typed browser)
    (started : page.startSegment browser session browser.pickMimeType
      failure = (next, throws)) : next.Typed browser := by
  unfold VoiceRecorder.startSegment at started
  split at started
  · cases started
    exact typed
  · split at started
    · cases started
      exact typed
    · cases started
      refine ⟨?_, typed.pending, typed.clips⟩
      intro recorder member
      rcases List.mem_append.mp member with old | new
      · exact typed.requested recorder old
      · rw [List.mem_singleton.mp new]
        exact ⟨rfl, rfl⟩

theorem clip_records
    (requested : recorder.requestedType = browser.pickMimeType)
    (mimeType : recorder.mimeType = browser.mimeTypeOf browser.pickMimeType)
    (recordingId : String) :
    browser.Records (recorder.clip recordingId).file := by
  constructor
  · show recorder.blobType = browser.blobType
    unfold MediaRecorder.blobType Browser.blobType
    cases asked : browser.pickMimeType with
    | none => simp [requested, mimeType, asked]
    | some type => simp [requested, mimeType, asked]
  · intro unnamed
    have letters := congrArg String.toList unnamed
    simp [MediaRecorder.clip] at letters

theorem Typed.keepClip (typed : page.Typed browser)
    (requested : recorder.requestedType = browser.pickMimeType)
    (mimeType : recorder.mimeType =
      browser.mimeTypeOf browser.pickMimeType) :
    (page.keepClip id recorder).Typed browser := by
  refine ⟨typed.requested, ?_, typed.clips⟩
  unfold VoiceRecorder.keepClip
  intro clip member
  dsimp only at member
  split at member
  · rcases List.mem_append.mp member with old | new
    · exact typed.pending clip old
    · rw [List.mem_singleton.mp new]
      exact clip_records requested mimeType page.recordingId
  · exact typed.pending clip member

theorem Typed.nextSegment (typed : page.Typed browser) :
    (page.nextSegment browser session browser.pickMimeType failure).Typed
      browser := by
  unfold VoiceRecorder.nextSegment
  split
  · have turned : Typed browser { page with stopIntent := none } :=
      typed.of_same rfl rfl rfl
    dsimp only
    split
    case h_1 same => exact turned.startSegment same
    case h_2 further same =>
      have failed : Typed browser
          { further with error := some .voiceCannotContinue } :=
        (turned.startSegment same).of_same rfl rfl rfl
      exact failed.finishSession
  · exact typed.finishSession

theorem Typed.onstop (typed : page.Typed browser)
    (found : page.recorders[id]? = some recorder)
    (requested : after.requestedType = recorder.requestedType)
    (mimeType : after.mimeType = recorder.mimeType) :
    ((page.setRecorder id after).onstop browser id after failure).Typed
      browser := by
  obtain ⟨asked, reports⟩ :=
    typed.requested recorder (List.mem_of_getElem? found)
  have kept : Typed browser
      ((page.setRecorder id after).keepClip id after) :=
    (typed.setRecorder found requested mimeType).keepClip
      (requested.trans asked) (mimeType.trans reports)
  unfold VoiceRecorder.onstop
  dsimp only
  split
  · rw [requested, asked]
    exact kept.nextSegment
  · exact kept

theorem Typed.stopRecording (typed : page.Typed browser) :
    (page.stopRecording browser).Typed browser := by
  have stopping : Typed browser
      { page with phase := .stopping, stopIntent := some .finish } :=
    typed.of_same rfl rfl rfl
  unfold VoiceRecorder.stopRecording
  split
  · exact typed
  · dsimp only
    split
    · split
      case h_1 found =>
        split
        · exact stopping.setRecorder found rfl rfl
        · exact stopping
      case h_2 => exact stopping
    · split
      · exact stopping.finishSession
      · exact stopping

theorem Typed.rotateSegment (typed : page.Typed browser) :
    page.rotateSegment.Typed browser := by
  unfold VoiceRecorder.rotateSegment
  split
  · split
    case h_1 recorder found =>
      have stopped : Typed browser
          (page.setRecorder _ { recorder with recording := false }) :=
        typed.setRecorder found rfl rfl
      split
      · exact stopped.of_same rfl rfl rfl
      · exact typed
    case h_2 => exact typed
  · exact typed

theorem Typed.startFailed (typed : page.Typed browser) :
    (page.startFailed session).Typed browser := by
  have released : Typed browser
      (if session.mount = page.session.mount then page.stopMedia
        else page) := by
    split
    · exact typed.of_same rfl rfl rfl
    · exact typed
  unfold VoiceRecorder.startFailed
  generalize (if session.mount = page.session.mount then page.stopMedia
    else page) = stopped at released
  dsimp only
  split
  · exact released.of_same rfl rfl rfl
  · exact released

theorem Typed.useStream {now : ℚ} (typed : page.Typed browser) :
    (page.useStream browser session now failure).Typed browser := by
  unfold VoiceRecorder.useStream
  split
  · dsimp only
    split
    · have held : Typed browser
          { page with
            granted := page.granted + 1
            live := page.granted :: page.live
            stream := some page.granted } :=
        typed.of_same rfl rfl rfl
      exact held.startFailed
    · have timed : Typed browser
          { page with
            granted := page.granted + 1
            live := page.granted :: page.live
            stream := some page.granted
            startedAt := now } :=
        typed.of_same rfl rfl rfl
      split
      case h_1 further same =>
        exact (timed.startSegment same).of_same rfl rfl rfl
      case h_2 further same => exact (timed.startSegment same).startFailed
  · exact typed.of_same rfl rfl rfl

theorem Typed.recorderEvent {react : MediaRecorder → VoiceRecorder}
    (taken : page.recorderEvent id react = some next)
    (reacts : ∀ recorder, page.recorders[id]? = some recorder →
      (react recorder).Typed browser) : next.Typed browser := by
  unfold VoiceRecorder.recorderEvent at taken
  split at taken
  case h_1 recorder found =>
    split at taken
    · cases taken
    · cases taken
      exact reacts recorder found
  case h_2 => cases taken

theorem Typed.unmount (typed : page.Typed browser) :
    page.unmount.Typed browser := by
  unfold VoiceRecorder.unmount
  dsimp only
  split
  · split
    case h_1 recorder found =>
      have silenced : Typed browser
          (page.setRecorder _ { recorder with recording := false }) :=
        typed.setRecorder found rfl rfl
      exact ⟨silenced.requested, by simp, silenced.clips⟩
    case h_2 => exact ⟨typed.requested, by simp, typed.clips⟩
  · exact ⟨typed.requested, by simp, typed.clips⟩

theorem Typed.step {event : RecorderEvent} (typed : page.Typed browser)
    (taken : VoiceRecorder.step browser page event = some next) :
    next.Typed browser := by
  cases event with
  | mount =>
      simp only [VoiceRecorder.step] at taken
      split at taken
      · cases taken
      · cases taken
        exact ⟨typed.requested, by simp [mount], typed.clips⟩
  | unmount =>
      simp only [VoiceRecorder.step] at taken
      split at taken
      · cases taken
        exact typed.unmount
      · cases taken
  | press supported uuid =>
      simp only [VoiceRecorder.step] at taken
      split at taken
      · unfold press at taken
        split at taken
        · cases taken
          exact typed.stopRecording
        · cases taken
          unfold startRecording
          split
          · exact ⟨typed.requested, by simp, typed.clips⟩
          · exact typed.of_same rfl rfl rfl
        · cases taken
      · cases taken
  | granted session now failure =>
      simp only [VoiceRecorder.step] at taken
      split at taken
      · cases taken
        have asked : Typed browser
            { page with requests := page.requests.erase session } :=
          typed.of_same rfl rfl rfl
        exact asked.useStream
      · cases taken
  | denied session =>
      simp only [VoiceRecorder.step] at taken
      split at taken
      · cases taken
        have asked : Typed browser
            { page with requests := page.requests.erase session } :=
          typed.of_same rfl rfl rfl
        exact asked.startFailed
      · cases taken
  | dataAvailable id data =>
      refine Typed.recorderEvent taken ?_
      intro recorder found
      unfold ondataavailable
      dsimp only
      split
      · exact typed.setRecorder found rfl rfl
      · exact typed.setRecorder found rfl rfl
  | failed id inactive =>
      refine Typed.recorderEvent taken ?_
      intro recorder found
      dsimp only
      unfold onerror
      split
      · refine typed.of_parts ?_ (fun _ member => member)
          (fun _ member => List.mem_append_left _ member)
        intro other member
        rcases List.mem_or_eq_of_mem_set member with earlier | rfl
        · rcases List.mem_or_eq_of_mem_set earlier with old | rfl
          · exact ⟨other, old, rfl, rfl⟩
          · exact ⟨recorder, List.mem_of_getElem? found, rfl, rfl⟩
        · exact ⟨recorder, List.mem_of_getElem? found, rfl, rfl⟩
      · exact typed.setRecorder found rfl rfl
  | stopped id failure =>
      refine Typed.recorderEvent taken ?_
      intro recorder found
      exact typed.onstop found rfl rfl
  | trackEnded stream =>
      simp only [VoiceRecorder.step] at taken
      split at taken
      · cases taken
        have silenced : Typed browser
            { page with live := page.live.filter (· ≠ stream) } :=
          typed.of_same rfl rfl rfl
        exact silenced.stopRecording
      · cases taken
  | frame now =>
      simp only [VoiceRecorder.step] at taken
      split at taken
      · cases taken
        unfold update
        dsimp only
        split
        · exact typed.stopRecording
        · split
          · exact typed.rotateSegment
          · exact typed
      · cases taken
  | remove index =>
      simp only [VoiceRecorder.step] at taken
      split at taken
      · cases taken
        exact ⟨typed.requested, typed.pending, fun clip member =>
          typed.clips clip (List.mem_of_mem_eraseIdx member)⟩
      · cases taken
  | previewed index preview =>
      simp only [VoiceRecorder.step] at taken
      split at taken
      · cases taken
        exact typed.of_same rfl rfl rfl
      · cases taken

theorem typed_of_reachable (reached : (system browser).Reachable page) :
    page.Typed browser := by
  apply reached.invariant
  · intro start initial
    rw [show start = fresh from initial]
    exact ⟨by simp [fresh], by simp [fresh], by simp [fresh]⟩
  · intro page event next _ typed _ taken
    exact typed.step taken

end VoiceRecorder

/-! ## What is sent is admitted -/

section

open Web (audioMimeTypes normalizeMimeType parseMetadata readClip readPhoto
  readUpload_ok)

variable {browser : Browser} {limits : UploadLimits} {platform : Platform}
  {stringify : Json → String} {clip : VoiceClip}

/-- The types that are recorded are allowed, whatever the browser supports, if
only the one that it reports itself is. -/
theorem blobType_allowed
    (reports : browser.mimeTypeOf browser.pickMimeType = "" ∨
      normalizeMimeType (some (browser.mimeTypeOf browser.pickMimeType)) ∈
        audioMimeTypes.map some) :
    normalizeMimeType (some browser.blobType) ∈ audioMimeTypes.map some := by
  have requests : ∀ requested ∈ ["audio/webm;codecs=opus", "audio/webm",
      "audio/ogg;codecs=opus", "audio/mp4"],
      requested ≠ "" ∧ normalizeMimeType (some requested) ∈
        audioMimeTypes.map some := by
    decide +kernel
  unfold Browser.blobType
  by_cases silent : browser.mimeTypeOf browser.pickMimeType = ""
  · rw [if_neg (not_not.mpr silent)]
    cases picked : browser.pickMimeType with
    | none => exact (requests "audio/webm" (by simp)).2
    | some requested =>
        obtain ⟨named, allowed⟩ :=
          requests requested (List.mem_of_find?_eq_some picked)
        dsimp only
        rw [if_pos named]
        exact allowed
  · rw [if_pos silent]
    exact reports.resolve_left silent

theorem parseMetadata_metadata
    (decodes : platform.loads (stringify clip.metadata) =
      .value clip.metadata)
    (named : clip.recordingId ≠ "") (short : clip.recordingId.length ≤ 128) :
    parseMetadata platform (stringify clip.metadata) =
      .ok (clip.recordingId, clip.segmentIndex) := by
  refine Web.parseMetadata_ok.mpr ⟨?_, named, short, by omega⟩
  unfold Web.loadMetadata
  rw [decodes]
  rfl

/-- The voice note that becomes of a clip. -/
def VoiceClip.audioClip (clip : VoiceClip) : Web.AudioClip :=
  { mimeType := (normalizeMimeType (some clip.file.type)).getD "audio/ogg"
    recordingId := clip.recordingId
    segmentIndex := clip.segmentIndex }

theorem readClip_upload (records : browser.Records clip.file)
    (allowed : normalizeMimeType (some browser.blobType) ∈
      audioMimeTypes.map some)
    (small : clip.file.data.length ≤ limits.maxAudioBytes) :
    readClip limits platform
        (clip.file.upload, clip.recordingId, clip.segmentIndex) =
      .ok (some (clip.audioClip, clip.file.data)) := by
  have stable : ∀ essence ∈ audioMimeTypes,
      normalizeMimeType (some essence) = some essence := by
    decide +kernel
  rw [← records.type] at allowed
  obtain ⟨essence, listed, same⟩ := List.mem_map.mp allowed
  have whole : Web.readUpload limits platform .audio essence
      clip.file.upload = .ok clip.file.data := by
    refine readUpload_ok.mpr ⟨?_, small, rfl⟩
    rw [stable essence listed]
    exact List.mem_map_of_mem listed
  have present : Python.truthy clip.file.upload.filename = true := by
    simpa [File.upload, Python.truthy] using records.named
  have type : (normalizeMimeType clip.file.upload.contentType).getD
      "audio/ogg" = essence := by
    show (normalizeMimeType (some clip.file.type)).getD "audio/ogg" = essence
    rw [← same]
    rfl
  unfold readClip VoiceClip.audioClip
  rw [← same]
  dsimp only
  rw [type, whole, if_pos present]
  rfl

/-- A photo that was chosen is read. -/
theorem readPhoto_chosen {photo : Option File}
    (chosen : ∀ file, photo = some file →
      file.name ≠ "" ∧ choosePhoto file = .ok file)
    (image : 5 * 1024 * 1024 ≤ limits.maxImageBytes) :
    readPhoto limits platform (photo.map File.upload) =
      .ok (photo.map (·.data)) := by
  have stable : ∀ type ∈ ["image/jpeg", "image/png", "image/webp"],
      type ≠ "" ∧ normalizeMimeType (some type) ∈
        Web.imageMimeTypes.map some := by
    decide +kernel
  cases photo with
  | none => rfl
  | some file =>
      obtain ⟨named, passed⟩ := chosen file rfl
      unfold choosePhoto at passed
      split at passed
      · cases passed
      case isFalse listed =>
        split at passed
        · cases passed
        case isFalse small =>
          obtain ⟨typed, allowed⟩ := stable file.type (not_not.mp listed)
          have present : Python.truthy file.upload.filename = true := by
            simpa [File.upload, Python.truthy] using named
          have type : (if Python.truthy file.upload.contentType then
              file.upload.contentType.getD "" else "image/jpeg") =
                file.type := by
            simp [File.upload, Python.truthy, typed]
          have whole : Web.readUpload limits platform .image file.type
              file.upload = .ok file.data := by
            refine readUpload_ok.mpr ⟨allowed, ?_, rfl⟩
            exact (not_lt.mp small).trans image
          unfold readPhoto
          rw [Option.map_some]
          dsimp only
          rw [if_pos present, type, whole]
          rfl

/-- The voice notes of the recorder are admitted as they are attached: every
one, in their order, with its bytes, its recording and its index, by which no
two of them are confused. -/
theorem recorded_clips_admitted {recorder : VoiceRecorder}
    (reached : (VoiceRecorder.system browser).ReachableWhen
      VoiceRecorder.FreshIds recorder)
    (page : NewComplaint) (placed : page.Placed)
    (attached : page.clips = recorder.clips)
    (described : Web.filledIn (textField page.description) ≠ none ∨
      page.clips ≠ [])
    (reports : browser.mimeTypeOf browser.pickMimeType = "" ∨
      normalizeMimeType (some (browser.mimeTypeOf browser.pickMimeType)) ∈
        audioMimeTypes.map some)
    (uuids : ∀ uuid ∈ recorder.uuids, uuid ≠ "" ∧ uuid.length ≤ 128)
    (small : ∀ clip ∈ page.clips,
      clip.file.data.length ≤ limits.maxAudioBytes)
    (image : 5 * 1024 * 1024 ≤ limits.maxImageBytes)
    (decodes : ∀ clip ∈ page.clips,
      platform.loads (stringify clip.metadata) = .value clip.metadata)
    (citizen : Citizen) (contactId : String)
    (linked : citizen.contactId = some contactId) :
    ∃ admitted : Admitted,
      (page.form stringify placed).accept limits platform citizen =
        .ok admitted ∧
      admitted.request.audioClips = page.clips.map (·.audioClip) ∧
      admitted.clips = page.clips.map (·.file.data) ∧
      admitted.photo = page.photo.map (·.data) ∧
      (admitted.request.audioClips.map fun clip =>
        (clip.recordingId, clip.segmentIndex)).Nodup := by
  have kept := VoiceRecorder.kept_of_reachable reached
  have typed := VoiceRecorder.typed_of_reachable
    (VoiceRecorder.reachable_of_fresh reached)
  have allowed := blobType_allowed reports
  let heard := page.clips.map fun clip =>
    (clip.audioClip, clip.file.data)
  have loaded : List.Forall₂
      (fun text found => parseMetadata platform text = .ok found)
      (page.clips.map fun clip => stringify clip.metadata)
      (page.clips.map fun clip => (clip.recordingId, (clip.segmentIndex : ℤ)))
      := by
    rw [List.forall₂_map_left_iff, List.forall₂_map_right_iff,
      List.forall₂_same]
    intro clip member
    have given : clip ∈ recorder.delivered :=
      kept.clips.subset (attached ▸ member)
    obtain ⟨named, short⟩ := uuids _ (kept.drawn clip given)
    exact parseMetadata_metadata (decodes clip member) named short
  have pairs : (page.clips.map fun clip => clip.file.upload).zip
      (page.clips.map fun clip => (clip.recordingId, (clip.segmentIndex : ℤ)))
      = page.clips.map fun clip =>
        (clip.file.upload, clip.recordingId, (clip.segmentIndex : ℤ)) :=
    List.zip_map' ..
  have read : List.Forall₂
      (fun clip found => readClip limits platform clip = .ok found)
      (page.clips.map fun clip =>
        (clip.file.upload, clip.recordingId, (clip.segmentIndex : ℤ)))
      (heard.map some) := by
    rw [List.map_map, List.forall₂_map_left_iff, List.forall₂_map_right_iff,
      List.forall₂_same]
    intro clip member
    exact readClip_upload (typed.clips clip (attached ▸ member)) allowed
      (small clip member)
  have whole : (heard.map some).reduceOption = heard := by
    simp [List.reduceOption]
  refine ⟨(page.form stringify placed).request citizen contactId
    (page.photo.map (·.data)) heard, ?_, ?_, ?_, rfl, ?_⟩
  · refine Web.accept_ok.mpr ⟨contactId, _, _, heard.map some, linked,
      readPhoto_chosen page.photoChosen image, ?_, loaded, ?_, ?_, ?_⟩
    · simp [NewComplaint.form]
    · exact pairs ▸ read
    · rw [whole]
      rintro ⟨blank, silent⟩
      rcases described with written | voiced
      · exact written blank
      · exact voiced (List.map_eq_nil_iff.mp silent)
    · rw [whole]
  · show heard.map (·.1) = _
    rw [List.map_map]
    rfl
  · show heard.map (·.2) = _
    rw [List.map_map]
    rfl
  · show ((heard.map (·.1)).map _).Nodup
    have names : ((heard.map (·.1)).map fun clip =>
        (clip.recordingId, clip.segmentIndex)) =
        (page.clips.map (·.identity)).map fun identity =>
          (identity.1, (identity.2 : ℤ)) := by
      simp [heard, Function.comp_def, VoiceClip.audioClip,
        VoiceClip.identity]
    rw [names, attached]
    refine (kept.identities.sublist (kept.clips.map _)).map ?_
    intro first second same
    simpa [Prod.ext_iff] using same

end

/-! ## A recording of two segments is sent -/

/-- `JSON.stringify` of metadata without characters to escape. -/
def plainStringify : Json → String
  | .object
      [(_, .string recordingId), (_, .int segmentIndex),
        (_, .string mimeType)] =>
      "\x7b\"recording_id\":\"" ++ recordingId ++
        "\",\"segment_index\":" ++ toString segmentIndex ++
        ",\"mime_type\":\"" ++ mimeType ++ "\"\x7d"
  | _ => ""

/-- A platform that decodes the metadata of the given clips. -/
def platformOf (clips : List VoiceClip) : Platform :=
  { loads := fun text =>
      match clips.find? fun clip => plainStringify clip.metadata = text with
      | some clip => .value clip.metadata
      | none => .notJson
    repr := fun _ => ""
    floatOfText := fun _ => none
    casefold := fun text => text
    validUrl := fun _ => true }

/-- Nothing is typed, and the two segments are attached. -/
def voicedPage : NewComplaint :=
  { lat := 28
    lon := 77
    description := ""
    landmark := ""
    clips := VoiceRecorder.previewedPage.clips
    photo := none
    descriptionLength := by decide
    landmarkLength := by decide
    landmarkLine := by decide
    photoChosen := by simp }

theorem voicedPage_placed : voicedPage.Placed := by
  constructor <;> simp only [voicedPage] <;> norm_num

theorem recorded_clips_admitted_two :
    ∃ admitted : Admitted,
      (voicedPage.form plainStringify voicedPage_placed).accept
          { maxAudioBytes := 10485760, maxImageBytes := 5242880 }
          (platformOf voicedPage.clips)
          { userId := "citizen", contactId := some "contact" } =
        .ok admitted ∧
      admitted.request.audioClips = voicedPage.clips.map (·.audioClip) ∧
      admitted.clips = voicedPage.clips.map (·.file.data) ∧
      admitted.photo = none ∧
      (admitted.request.audioClips.map fun clip =>
        (clip.recordingId, clip.segmentIndex)).Nodup := by
  refine recorded_clips_admitted VoiceRecorder.previewedPage_reached
    voicedPage voicedPage_placed rfl (.inr (by decide)) (.inr (by decide +kernel))
    (by decide) ?_ (by decide) ?_ _ "contact" rfl
  · intro clip member
    have short : ∀ clip ∈ voicedPage.clips,
        clip.file.data.length ≤ 10485760 := by
      decide
    exact short clip member
  · intro clip member
    have texts : ∀ clip ∈ voicedPage.clips,
        (voicedPage.clips.find? fun other =>
          plainStringify other.metadata = plainStringify clip.metadata) =
        some clip := by
      decide +kernel
    show (platformOf voicedPage.clips).loads _ = _
    unfold platformOf
    dsimp only
    rw [texts clip member]

end JanSetu.Frontend
