import JanSetu.Library.Transition
import Mathlib.Algebra.Order.Ring.Unbundled.Rat
import Mathlib.Data.List.Infix

/-!
# The voice recorder of the browser

`components/VoiceRecorder.tsx` with the parts of the browser that it drives:
the microphone, the `MediaRecorder`s and the calls it waits for.  An event is
whatever runs a callback of the component, which runs to its end.  React
renders between any two events, so that the refs that follow `phase` and
`clips` are up to date.
-/

namespace JanSetu.Frontend

inductive RecorderPhase where
  | idle
  | requesting
  | recording
  | stopping
deriving DecidableEq

inductive StopIntent where
  | rotate
  | finish
deriving DecidableEq

/-- The messages of the component, by their key in the catalog. -/
inductive RecorderError where
  | voiceInterrupted
  | voiceCannotContinue
  | voiceUnsupported
  | micOff
deriving DecidableEq

structure File where
  name : String
  type : String
  data : List UInt8
deriving DecidableEq

structure VoiceClip where
  file : File
  recordingId : String
  segmentIndex : Nat
deriving DecidableEq

inductive PreviewStatus where
  | final
  | unavailable
deriving DecidableEq

structure TranscriptionPreview where
  text : Option String
  language : Option String
  status : PreviewStatus
deriving DecidableEq

def segmentSeconds : ℚ :=
  30

def maxSeconds : ℚ :=
  60

/-- A value of `sessionRef`, of the component as it was mounted for the n-th
time. -/
structure Session where
  mount : Nat
  number : Nat
deriving DecidableEq

/-- A recorder with the variables of its callbacks.  `ended` means that it has
no event left to fire; `emitted` is all that it has handed over, which no
callback reads. -/
structure MediaRecorder where
  session : Session
  segmentNumber : Nat
  requestedType : Option String
  mimeType : String
  recording : Bool
  ended : Bool
  chunks : List (List UInt8)
  emitted : List (List UInt8)
deriving DecidableEq

/-- The component, the clips of its parent and the browser.  `requests` are
the calls of `getUserMedia` without an answer, `live` the streams whose
microphone is on, `uuids` the ids that were drawn, `previewing` the previews
without an answer.  `delivered` are all clips that the parent was ever given
and `answers` the previews of clips; no callback reads them. -/
structure VoiceRecorder where
  mounted : Bool
  session : Session
  phase : RecorderPhase
  stream : Option Nat
  recorder : Option Nat
  pendingClips : List VoiceClip
  recordingId : String
  stopIntent : Option StopIntent
  startedAt : ℚ
  splitStarted : Bool
  previews : List (String × TranscriptionPreview)
  error : Option RecorderError
  clips : List VoiceClip
  requests : List Session
  granted : Nat
  live : List Nat
  recorders : List MediaRecorder
  uuids : List String
  previewing : List (Nat × VoiceClip)
  delivered : List VoiceClip
  answers : List (VoiceClip × TranscriptionPreview)
deriving DecidableEq

/-- What the component asks of the browser and of its parent. -/
structure Browser where
  isTypeSupported : String → Bool
  /-- `recorder.mimeType` of a recorder for which this type was asked. -/
  mimeTypeOf : Option String → String
  previewEnabled : Bool

/-- Where starting a recorder throws; `audioContext` is the wave form that is
set up before. -/
inductive StartFailure where
  | audioContext
  | constructor
  | start
deriving DecidableEq

inductive RecorderEvent where
  | mount
  | unmount
  | press (supported : Bool) (uuid : String)
  | granted (session : Session) (now : ℚ) (failure : Option StartFailure)
  | denied (session : Session)
  | dataAvailable (id : Nat) (data : List UInt8)
  | failed (id : Nat) (inactive : Bool)
  | stopped (id : Nat) (failure : Option StartFailure)
  | trackEnded (stream : Nat)
  | frame (now : ℚ)
  | remove (index : Nat)
  | previewed (index : Nat) (preview : Option TranscriptionPreview)
deriving DecidableEq

def Browser.pickMimeType (browser : Browser) : Option String :=
  ["audio/webm;codecs=opus", "audio/webm", "audio/ogg;codecs=opus",
    "audio/mp4"].find? browser.isTypeSupported

def contains (text word : String) : Bool :=
  word.toList <:+: text.toList

/-- `blob.type`; the empty type counts as none. -/
def MediaRecorder.blobType (recorder : MediaRecorder) : String :=
  if recorder.mimeType ≠ "" then recorder.mimeType
  else
    match recorder.requestedType with
    | some requested => if requested ≠ "" then requested else "audio/webm"
    | none => "audio/webm"

def fileExtension (type : String) : String :=
  if contains type "ogg" then "ogg"
  else if contains type "mp4" then "m4a"
  else "webm"

/-- The clip that `onstop` makes of what was recorded. -/
def MediaRecorder.clip (recorder : MediaRecorder) (recordingId : String) :
    VoiceClip :=
  { file :=
      { name :=
          "voice-note-" ++ toString recorder.session.number ++ "-" ++
            toString recorder.segmentNumber ++ "." ++
            fileExtension recorder.blobType
        type := recorder.blobType
        data := recorder.chunks.flatten }
    recordingId := recordingId
    segmentIndex := recorder.segmentNumber - 1 }

def previewKey (clip : VoiceClip) : String :=
  clip.recordingId ++ ":" ++ toString clip.segmentIndex

namespace VoiceRecorder

/-- The session of a callback is that of the mounted component. -/
def isCurrent (page : VoiceRecorder) (session : Session) : Bool :=
  page.mounted && session = page.session

def setRecorder (page : VoiceRecorder) (id : Nat)
    (recorder : MediaRecorder) : VoiceRecorder :=
  { page with recorders := page.recorders.set id recorder }

def stopMedia (page : VoiceRecorder) : VoiceRecorder :=
  { page with
    live := page.live.filter fun id => page.stream ≠ some id
    stream := none }

section

variable (browser : Browser)

def finishSession (page : VoiceRecorder) (session : Session) :
    VoiceRecorder :=
  let stopped := page.stopMedia
  if stopped.isCurrent session then
    { stopped with
      clips := stopped.clips ++ stopped.pendingClips
      previewing :=
        if browser.previewEnabled then
          stopped.previewing ++
            stopped.pendingClips.map fun clip => (session.mount, clip)
        else stopped.previewing
      delivered := stopped.delivered ++ stopped.pendingClips
      pendingClips := []
      stopIntent := none
      recorder := none
      phase := .idle }
  else stopped

/-- The flag says whether it throws. -/
def startSegment (page : VoiceRecorder) (session : Session)
    (mimeType : Option String) (failure : Option StartFailure) :
    VoiceRecorder × Bool :=
  if page.stream.isNone || !page.isCurrent session then (page, false)
  else
    match failure with
    | some .constructor => (page, true)
    | failure =>
        let throws := decide (failure = some .start)
        ({ page with
            recorder := some page.recorders.length
            recorders := page.recorders ++
              [{ session := session
                 segmentNumber := page.pendingClips.length + 1
                 requestedType := mimeType
                 mimeType := browser.mimeTypeOf mimeType
                 recording := !throws
                 ended := throws
                 chunks := []
                 emitted := [] }] },
          throws)

def ondataavailable (page : VoiceRecorder) (id : Nat)
    (recorder : MediaRecorder) (data : List UInt8) : VoiceRecorder :=
  let handed := { recorder with emitted := recorder.emitted ++ [data] }
  if data ≠ [] ∧ recorder.session = page.session then
    page.setRecorder id { handed with chunks := recorder.chunks ++ [data] }
  else page.setRecorder id handed

def onerror (page : VoiceRecorder) (id : Nat) (recorder : MediaRecorder) :
    VoiceRecorder :=
  if page.isCurrent recorder.session then
    { page.setRecorder id { recorder with recording := false } with
      error := some .voiceInterrupted
      stopIntent := some .finish
      phase := .stopping }
  else page

/-- The clip of a recorder that has stopped, unless it is empty. -/
def keepClip (page : VoiceRecorder) (id : Nat) (recorder : MediaRecorder) :
    VoiceRecorder :=
  { page with
    pendingClips :=
      if page.isCurrent recorder.session ∧ recorder.chunks.flatten ≠ [] then
        page.pendingClips ++ [recorder.clip page.recordingId]
      else page.pendingClips
    recorder := if page.recorder = some id then none else page.recorder }

/-- The rest of `onstop`, for the session of the mounted component. -/
def nextSegment (page : VoiceRecorder) (session : Session)
    (mimeType : Option String) (failure : Option StartFailure) :
    VoiceRecorder :=
  if page.stopIntent = some .rotate ∧ page.phase = .recording then
    let turned := { page with stopIntent := none }
    match turned.startSegment browser session mimeType failure with
    | (started, false) => started
    | (started, true) =>
        finishSession browser
          { started with error := some .voiceCannotContinue } session
  else page.finishSession browser session

def onstop (page : VoiceRecorder) (id : Nat) (recorder : MediaRecorder)
    (failure : Option StartFailure) : VoiceRecorder :=
  let kept := page.keepClip id recorder
  if kept.isCurrent recorder.session then
    kept.nextSegment browser recorder.session recorder.requestedType failure
  else kept

def stopRecording (page : VoiceRecorder) : VoiceRecorder :=
  if page.phase ≠ .recording then page
  else
    let stopping :=
      { page with phase := .stopping, stopIntent := some .finish }
    match page.recorder with
    | some id =>
        match page.recorders[id]? with
        | some recorder =>
            if recorder.recording then
              stopping.setRecorder id { recorder with recording := false }
            else stopping
        | none => stopping
    | none =>
        if page.stream.isNone then
          stopping.finishSession browser page.session
        else stopping

end

def rotateSegment (page : VoiceRecorder) : VoiceRecorder :=
  match page.recorder with
  | some id =>
      match page.recorders[id]? with
      | some recorder =>
          if page.phase = .recording ∧ recorder.recording = true then
            { page.setRecorder id { recorder with recording := false } with
              splitStarted := true
              stopIntent := some .rotate }
          else page
      | none => page
  | none => page

/-- What comes before `getUserMedia` answers. -/
def startRecording (page : VoiceRecorder) (supported : Bool)
    (uuid : String) : VoiceRecorder :=
  if supported then
    let session :=
      { page.session with number := page.session.number + 1 }
    { page with
      error := none
      session := session
      phase := .requesting
      pendingClips := []
      recordingId := uuid
      stopIntent := none
      splitStarted := false
      requests := page.requests ++ [session]
      uuids := uuid :: page.uuids }
  else { page with error := some .voiceUnsupported }

/-- The `catch` of `startRecording`, on the refs of its own mount. -/
def startFailed (page : VoiceRecorder) (session : Session) :
    VoiceRecorder :=
  let released :=
    if session.mount = page.session.mount then page.stopMedia else page
  if released.isCurrent session then
    { released with phase := .idle, error := some .micOff }
  else released

/-- What comes once `getUserMedia` has answered with a stream. -/
def useStream (browser : Browser) (page : VoiceRecorder) (session : Session)
    (now : ℚ) (failure : Option StartFailure) : VoiceRecorder :=
  if page.isCurrent session then
    let held :=
      { page with
        granted := page.granted + 1
        live := page.granted :: page.live
        stream := some page.granted }
    if failure = some .audioContext then held.startFailed session
    else
      let timed := { held with startedAt := now }
      match timed.startSegment browser session browser.pickMimeType failure with
      | (started, false) => { started with phase := .recording }
      | (started, true) => started.startFailed session
  -- The tracks of the stream are stopped at once.
  else { page with granted := page.granted + 1 }

/-- One frame of the loop that runs while a recording does. -/
def update (browser : Browser) (page : VoiceRecorder) (now : ℚ) :
    VoiceRecorder :=
  let nextElapsed := min ((now - page.startedAt) / 1000) maxSeconds
  if maxSeconds ≤ nextElapsed then page.stopRecording browser
  else if segmentSeconds ≤ nextElapsed ∧ page.splitStarted = false then
    page.rotateSegment
  else page

/-- A new component with the clips of its parent. -/
def mount (page : VoiceRecorder) : VoiceRecorder :=
  { page with
    mounted := true
    session := { mount := page.session.mount + 1, number := 0 }
    phase := .idle
    stream := none
    recorder := none
    pendingClips := []
    recordingId := ""
    stopIntent := none
    startedAt := 0
    splitStarted := false
    previews := []
    error := none }

def unmount (page : VoiceRecorder) : VoiceRecorder :=
  let silenced :=
    match page.recorder with
    | some id =>
        match page.recorders[id]? with
        | some recorder =>
            page.setRecorder id { recorder with recording := false }
        | none => page
    | none => page
  { silenced.stopMedia with
    mounted := false
    session := { page.session with number := page.session.number + 1 }
    recorder := none
    pendingClips := [] }

/-- The answer to a preview; a call that fails counts as unavailable. -/
def setPreview (page : VoiceRecorder) (mount : Nat) (clip : VoiceClip)
    (preview : Option TranscriptionPreview) : VoiceRecorder :=
  let answer := preview.getD
    { text := none, language := none, status := .unavailable }
  { page with
    previews :=
      if page.mounted ∧ mount = page.session.mount then
        (previewKey clip, answer) :: page.previews
      else page.previews
    answers := (clip, answer) :: page.answers }

/-- The button shows the phase and is disabled while one waits. -/
def press (browser : Browser) (page : VoiceRecorder) (supported : Bool)
    (uuid : String) : Option VoiceRecorder :=
  match page.phase with
  | .recording => some (page.stopRecording browser)
  | .idle => some (page.startRecording supported uuid)
  | _ => none

/-- The id that `crypto.randomUUID` gives, if the press draws one. -/
def drawn (page : VoiceRecorder) : RecorderEvent → Option String
  | .press true uuid => if page.phase = .idle then some uuid else none
  | _ => none

/-- No id is drawn twice. -/
def FreshIds (page : VoiceRecorder) (event : RecorderEvent) : Prop :=
  ∀ uuid ∈ page.uuids, page.drawn event ≠ some uuid

instance (page : VoiceRecorder) (event : RecorderEvent) :
    Decidable (page.FreshIds event) :=
  inferInstanceAs (Decidable (∀ uuid ∈ page.uuids, _))

/-- The event of a recorder that has not fired its last one. -/
def recorderEvent (page : VoiceRecorder) (id : Nat)
    (react : MediaRecorder → VoiceRecorder) : Option VoiceRecorder :=
  match page.recorders[id]? with
  | some recorder => if recorder.ended then none else some (react recorder)
  | none => none

def step (browser : Browser) (page : VoiceRecorder) :
    RecorderEvent → Option VoiceRecorder
  | .mount => if page.mounted then none else some page.mount
  | .unmount => if page.mounted then some page.unmount else none
  | .press supported uuid =>
      if page.mounted then page.press browser supported uuid else none
  | .granted session now failure =>
      if session ∈ page.requests then
        some
          (useStream browser
            { page with requests := page.requests.erase session } session now
            failure)
      else none
  | .denied session =>
      if session ∈ page.requests then
        some
          (startFailed
            { page with requests := page.requests.erase session } session)
      else none
  | .dataAvailable id data =>
      page.recorderEvent id fun recorder =>
        page.ondataavailable id recorder data
  | .failed id inactive =>
      page.recorderEvent id fun recorder =>
        let after :=
          { recorder with recording := recorder.recording && !inactive }
        onerror (page.setRecorder id after) id after
  | .stopped id failure =>
      page.recorderEvent id fun recorder =>
        let after := { recorder with recording := false, ended := true }
        onstop browser (page.setRecorder id after) id after failure
  | .trackEnded stream =>
      if stream ∈ page.live then
        some
          (stopRecording browser
            { page with live := page.live.filter (· ≠ stream) })
      else none
  | .frame now =>
      if page.mounted ∧ page.phase = .recording then
        some (page.update browser now)
      else none
  | .remove index =>
      if page.mounted ∧ index < page.clips.length then
        some { page with clips := page.clips.eraseIdx index }
      else none
  | .previewed index preview =>
      match page.previewing[index]? with
      | some (mount, clip) =>
          some
            (setPreview
              { page with previewing := page.previewing.eraseIdx index }
              mount clip preview)
      | none => none

/-- Before the component is mounted for the first time. -/
def fresh : VoiceRecorder :=
  { mounted := false
    session := { mount := 0, number := 0 }
    phase := .idle
    stream := none
    recorder := none
    pendingClips := []
    recordingId := ""
    stopIntent := none
    startedAt := 0
    splitStarted := false
    previews := []
    error := none
    clips := []
    requests := []
    granted := 0
    live := []
    recorders := []
    uuids := []
    previewing := []
    delivered := []
    answers := [] }

def system (browser : Browser) :
    Transition.System VoiceRecorder RecorderEvent :=
  { initial := fun page => page = fresh
    step := step browser }

end VoiceRecorder

end JanSetu.Frontend
