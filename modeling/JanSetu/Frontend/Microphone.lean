import JanSetu.Frontend.Recorder
import Mathlib.Data.List.Nodup

/-!
# The microphone

Which stream, which request and which recorder the component holds in each of
its phases, and how its callbacks keep to that until a recorder stops.
-/

namespace JanSetu.Frontend

namespace Session

/-- The session is that of the second argument or one before it. -/
def UpTo (session last : Session) : Prop :=
  session.mount < last.mount ∨
    session.mount = last.mount ∧ session.number ≤ last.number

def following (session : Session) : Session :=
  { session with number := session.number + 1 }

def remounted (session : Session) : Session :=
  { mount := session.mount + 1, number := 0 }

variable {session last : Session}

theorem UpTo.following (past : session.UpTo last) :
    session.UpTo last.following := by
  unfold UpTo Session.following at *
  dsimp only
  omega

theorem UpTo.ne_following (past : session.UpTo last) :
    session ≠ last.following := by
  intro same
  subst same
  unfold UpTo Session.following at past
  dsimp only at past
  omega

theorem UpTo.remounted (past : session.UpTo last) :
    session.UpTo last.remounted := by
  unfold UpTo Session.remounted at *
  dsimp only
  omega

theorem UpTo.ne_remounted (past : session.UpTo last) :
    session ≠ last.remounted := by
  intro same
  subst same
  unfold UpTo Session.remounted at past
  dsimp only at past
  omega

theorem upTo_self (session : Session) : session.UpTo session :=
  .inr ⟨rfl, le_rfl⟩

end Session

/-- The clips of the recorders that have recorded something. -/
def clipsOf (recordingId : String) (recorders : List MediaRecorder) :
    List VoiceClip :=
  (recorders.filter (·.chunks.flatten ≠ [])).map (·.clip recordingId)

/-- Replacing an entry that is filtered out by another one. -/
theorem filter_set_of_neg {α : Type*} {test : α → Bool} {entries : List α}
    {index : Nat} {before after : α} (found : entries[index]? = some before)
    (rejected : ¬ test before) (still : ¬ test after) :
    (entries.set index after).filter test = entries.filter test := by
  induction entries generalizing index with
  | nil => rfl
  | cons entry entries induction =>
      cases index with
      | zero =>
          cases found
          rw [List.set_cons_zero, List.filter_cons_of_neg still,
            List.filter_cons_of_neg rejected]
      | succ index =>
          rw [List.set_cons_succ, List.filter_cons, List.filter_cons,
            induction found]

namespace VoiceRecorder

/-- The recorders of a session, in the order in which they were started. -/
def ofSession (page : VoiceRecorder) (session : Session) :
    List MediaRecorder :=
  page.recorders.filter (·.session = session)

def Requesting (page : VoiceRecorder) : Prop :=
  page.mounted = true ∧ page.phase = .requesting

def Active (page : VoiceRecorder) : Prop :=
  page.mounted = true ∧ (page.phase = .recording ∨ page.phase = .stopping)

/-- All recorders of the session but the last have fired their last event, and
what they recorded is in the pending clips. -/
structure Recorded (page : VoiceRecorder) (before : List MediaRecorder)
    (current : MediaRecorder) : Prop where
  recorders : page.recorders = before ++ [current]
  recorder : page.recorder = some before.length
  session : current.session = page.session
  unended : current.ended = false
  number : current.segmentNumber = page.pendingClips.length + 1
  ended : ∀ recorder ∈ before, recorder.session = page.session →
    recorder.ended = true
  kept : page.pendingClips = clipsOf page.recordingId
    (before.filter (·.session = page.session))
  indices : page.pendingClips.map (·.segmentIndex) =
    List.range page.pendingClips.length
  rotating : page.stopIntent = some .rotate → page.splitStarted = true
  segments : before.filter (·.session = page.session) = [] ∨
    (before.filter (·.session = page.session)).length = 1 ∧
      page.splitStarted = true ∧ page.stopIntent ≠ some .rotate
  whole : ∀ recorder ∈ page.recorders, recorder.session = page.session →
    recorder.chunks.flatten = recorder.emitted.flatten
  halted : page.phase = .stopping → current.recording = false

/-- What holds in every reachable state. -/
structure Sound (page : VoiceRecorder) : Prop where
  requestsNodup : page.requests.Nodup
  requestsPast : ∀ session ∈ page.requests, session.UpTo page.session
  requested : page.session ∈ page.requests ↔ page.Requesting
  single : page.mounted = true → ∀ session ∈ page.requests,
    session.mount = page.session.mount → session = page.session
  live : page.live = [] ∨
    ∃ id, page.stream = some id ∧ page.live = [id]
  stream : page.stream.isSome = true ↔ page.Active
  recordersPast : ∀ recorder ∈ page.recorders,
    recorder.session.UpTo page.session
  unrecorded : page.mounted = false ∨ page.Requesting →
    ∀ recorder ∈ page.recorders, recorder.session ≠ page.session
  unstopped : page.Requesting → page.stopIntent = none
  settled : ¬ page.Active → ∀ recorder ∈ page.recorders,
    recorder.session = page.session → recorder.ended = true
  nothingPending : ¬ page.Active → page.pendingClips = []
  active : page.Active → ∃ before current, page.Recorded before current

/-- The fields that `Sound` speaks of, but for what is held of the browser. -/
structure SameRecording (page next : VoiceRecorder) : Prop where
  mounted : next.mounted = page.mounted
  session : next.session = page.session
  phase : next.phase = page.phase
  pendingClips : next.pendingClips = page.pendingClips
  recordingId : next.recordingId = page.recordingId
  stopIntent : next.stopIntent = page.stopIntent
  splitStarted : next.splitStarted = page.splitStarted
  recorders : next.recorders = page.recorders

/-! ## What the fields say of each other -/

variable {browser : Browser} {page next : VoiceRecorder} {session : Session}
  {id : Nat} {recorder after current : MediaRecorder}
  {before : List MediaRecorder}

@[simp]
theorem isCurrent_eq_true :
    page.isCurrent session = true ↔
      page.mounted = true ∧ session = page.session := by
  simp [isCurrent]

theorem Requesting.not_active (requesting : page.Requesting) :
    ¬ page.Active := by
  rintro ⟨_, recording | stopping⟩
  · rw [requesting.2] at recording
    cases recording
  · rw [requesting.2] at stopping
    cases stopping

theorem Sound.not_requested (sound : page.Sound) (active : page.Active) :
    page.session ∉ page.requests := by
  intro member
  exact (sound.requested.mp member).not_active active

theorem Sound.stopMedia_live (sound : page.Sound) :
    page.stopMedia.live = [] := by
  rcases sound.live with silent | ⟨id, held, on⟩
  · simp [stopMedia, silent]
  · simp [stopMedia, held, on]

/-- An event of a recorder of the mounted component comes while it records. -/
theorem Sound.active_of_current (sound : page.Sound)
    (found : page.recorders[id]? = some recorder)
    (unended : recorder.ended = false)
    (same : recorder.session = page.session) : page.Active := by
  by_contra inactive
  have ended := sound.settled inactive recorder
    (List.mem_of_getElem? found) same
  rw [unended] at ended
  cases ended

/-- The recorder that has not fired its last event is the last one. -/
theorem Recorded.locate (recorded : page.Recorded before current)
    (found : page.recorders[id]? = some recorder)
    (unended : recorder.ended = false)
    (same : recorder.session = page.session) :
    id = before.length ∧ recorder = current := by
  rw [recorded.recorders] at found
  rcases Nat.lt_or_ge id before.length with earlier | later
  · rw [List.getElem?_append_left earlier] at found
    have ended := recorded.ended recorder (List.mem_of_getElem? found) same
    rw [unended] at ended
    cases ended
  · rw [List.getElem?_append_right later, List.getElem?_singleton] at found
    split at found
    case isTrue last =>
      cases found
      exact ⟨by omega, rfl⟩
    case isFalse => cases found

/-! ## What keeps the invariant -/

theorem Recorded.of_same (recorded : page.Recorded before current)
    (same : page.SameRecording next)
    (recorder : next.recorder = page.recorder) :
    next.Recorded before current := by
  constructor
  · rw [same.recorders]
    exact recorded.recorders
  · rw [recorder]
    exact recorded.recorder
  · rw [same.session]
    exact recorded.session
  · exact recorded.unended
  · rw [same.pendingClips]
    exact recorded.number
  · rw [same.session]
    exact recorded.ended
  · rw [same.pendingClips, same.recordingId, same.session]
    exact recorded.kept
  · rw [same.pendingClips]
    exact recorded.indices
  · rw [same.stopIntent, same.splitStarted]
    exact recorded.rotating
  · rw [same.session, same.splitStarted, same.stopIntent]
    exact recorded.segments
  · rw [same.recorders, same.session]
    exact recorded.whole
  · rw [same.phase]
    exact recorded.halted

theorem Sound.of_same (sound : page.Sound) (same : page.SameRecording next)
    (recorder : page.Active → next.recorder = page.recorder)
    (stream : next.stream = page.stream)
    (requests : next.requests = page.requests)
    (live : next.live.Sublist page.live) : next.Sound := by
  have active : next.Active ↔ page.Active := by
    unfold Active
    rw [same.mounted, same.phase]
  have requesting : next.Requesting ↔ page.Requesting := by
    unfold Requesting
    rw [same.mounted, same.phase]
  constructor
  · rw [requests]
    exact sound.requestsNodup
  · rw [requests, same.session]
    exact sound.requestsPast
  · rw [requests, same.session, requesting]
    exact sound.requested
  · rw [same.mounted, requests, same.session]
    exact sound.single
  · rw [stream]
    rcases sound.live with silent | ⟨id, held, on⟩
    · rw [silent, List.sublist_nil] at live
      exact .inl live
    · rw [on, List.sublist_singleton] at live
      exact live.imp_right fun kept => ⟨id, held, kept⟩
  · rw [stream, active]
    exact sound.stream
  · rw [same.recorders, same.session]
    exact sound.recordersPast
  · rw [same.mounted, requesting, same.recorders, same.session]
    exact sound.unrecorded
  · rw [requesting, same.stopIntent]
    exact sound.unstopped
  · rw [active, same.recorders, same.session]
    exact sound.settled
  · rw [active, same.pendingClips]
    exact sound.nothingPending
  · rw [active]
    intro records
    obtain ⟨before, current, recorded⟩ := sound.active records
    exact ⟨before, current, recorded.of_same same (recorder records)⟩

/-- A recorder of another session does not matter. -/
theorem Sound.setOther (sound : page.Sound)
    (found : page.recorders[id]? = some recorder)
    (session : after.session = recorder.session)
    (other : recorder.session ≠ page.session) :
    (page.setRecorder id after).Sound := by
  have member : ∀ one ∈ page.recorders.set id after,
      one ∈ page.recorders ∨ one = after := fun _ inside =>
    List.mem_or_eq_of_mem_set inside
  have unlike : after.session ≠ page.session := session ▸ other
  constructor
  · exact sound.requestsNodup
  · exact sound.requestsPast
  · exact sound.requested
  · exact sound.single
  · exact sound.live
  · exact sound.stream
  · intro one inside
    rcases member one inside with kept | rfl
    · exact sound.recordersPast one kept
    · rw [session]
      exact sound.recordersPast recorder (List.mem_of_getElem? found)
  · intro idle one inside
    rcases member one inside with kept | rfl
    · exact sound.unrecorded idle one kept
    · exact unlike
  · exact sound.unstopped
  · intro inactive one inside same
    rcases member one inside with kept | rfl
    · exact sound.settled inactive one kept same
    · exact absurd same unlike
  · exact sound.nothingPending
  · intro active
    obtain ⟨before, current, recorded⟩ := sound.active active
    have earlier : id < before.length := by
      by_contra later
      rw [recorded.recorders,
        List.getElem?_append_right (Nat.le_of_not_lt later),
        List.getElem?_singleton] at found
      split at found
      case isTrue =>
        cases found
        exact other recorded.session
      case isFalse => cases found
    have unchanged : (before.set id after).filter
        (·.session = page.session) =
          before.filter (·.session = page.session) := by
      rw [recorded.recorders, List.getElem?_append_left earlier] at found
      exact filter_set_of_neg found (by simpa using other)
        (by simpa using unlike)
    refine ⟨before.set id after, current, ?_⟩
    constructor
    · dsimp only [setRecorder]
      rw [recorded.recorders, List.set_append_left _ _ earlier]
    · rw [List.length_set]
      exact recorded.recorder
    · exact recorded.session
    · exact recorded.unended
    · exact recorded.number
    · intro one inside same
      rcases List.mem_or_eq_of_mem_set inside with kept | rfl
      · exact recorded.ended one kept same
      · exact absurd same unlike
    · exact recorded.kept.trans (congrArg _ unchanged.symm)
    · exact recorded.indices
    · exact recorded.rotating
    · rw [show (page.setRecorder id after).session = page.session from rfl,
        unchanged]
      exact recorded.segments
    · intro one inside same
      rcases member one inside with kept | rfl
      · exact recorded.whole one kept same
      · exact absurd same unlike
    · exact recorded.halted

/-- The recorder that is recording has handed something over, or its state
has changed. -/
theorem Recorded.setCurrent (recorded : page.Recorded before current)
    (after : MediaRecorder) (session : after.session = page.session)
    (unended : after.ended = false)
    (number : after.segmentNumber = current.segmentNumber)
    (whole : after.chunks.flatten = after.emitted.flatten)
    (halted : current.recording = false → after.recording = false) :
    (page.setRecorder before.length after).Recorded before after := by
  constructor
  · dsimp only [setRecorder]
    rw [recorded.recorders, List.set_append_right _ _ le_rfl]
    simp
  · exact recorded.recorder
  · exact session
  · exact unended
  · rw [number]
    exact recorded.number
  · exact recorded.ended
  · exact recorded.kept
  · exact recorded.indices
  · exact recorded.rotating
  · exact recorded.segments
  · intro one inside same
    rcases List.mem_or_eq_of_mem_set inside with kept | rfl
    · exact recorded.whole one kept same
    · exact whole
  · exact fun stopping => halted (recorded.halted stopping)

theorem Sound.setCurrent (sound : page.Sound)
    (found : page.recorders[id]? = some recorder)
    (unended : recorder.ended = false)
    (current : recorder.session = page.session)
    (session : after.session = recorder.session)
    (number : after.segmentNumber = recorder.segmentNumber)
    (running : after.ended = false)
    (whole : after.chunks.flatten = after.emitted.flatten)
    (halted : recorder.recording = false → after.recording = false) :
    (page.setRecorder id after).Sound := by
  have active := sound.active_of_current found unended current
  obtain ⟨before, last, recorded⟩ := sound.active active
  obtain ⟨rfl, rfl⟩ := recorded.locate found unended current
  constructor
  · exact sound.requestsNodup
  · exact sound.requestsPast
  · exact sound.requested
  · exact sound.single
  · exact sound.live
  · exact sound.stream
  · intro one inside
    rcases List.mem_or_eq_of_mem_set inside with kept | rfl
    · exact sound.recordersPast one kept
    · rw [session]
      exact sound.recordersPast recorder (List.mem_of_getElem? found)
  · rintro (unmounted | requesting)
    · have mounted : page.mounted = true := active.1
      rw [show page.mounted = false from unmounted] at mounted
      cases mounted
    · exact absurd active (Requesting.not_active requesting)
  · exact sound.unstopped
  · intro inactive
    exact absurd active inactive
  · exact sound.nothingPending
  · intro _
    exact ⟨before, after,
      recorded.setCurrent after (session.trans current) running number
        whole halted⟩

/-! ## The steps -/

/-- The component saves what the recorder hands over, which was stopped. -/
theorem Sound.stopping (sound : page.Sound) (active : page.Active)
    (found : page.recorders[id]? = some recorder)
    (unended : recorder.ended = false)
    (own : recorder.session = page.session)
    (halted : recorder.recording = false) (error : Option RecorderError) :
    Sound
      { page with
        error := error
        stopIntent := some .finish
        phase := .stopping } := by
  have still : Active
      { page with
        error := error, stopIntent := some .finish, phase := .stopping } :=
    ⟨active.1, .inr rfl⟩
  constructor
  · exact sound.requestsNodup
  · exact sound.requestsPast
  · constructor
    · intro member
      exact absurd member (sound.not_requested active)
    · intro requesting
      exact absurd still requesting.not_active
  · exact sound.single
  · exact sound.live
  · exact iff_of_true (sound.stream.mpr active) still
  · exact sound.recordersPast
  · rintro (unmounted | requesting)
    · exact absurd (unmounted.symm.trans active.1) Bool.false_ne_true
    · exact absurd still requesting.not_active
  · intro requesting
    exact absurd still requesting.not_active
  · intro inactive
    exact absurd still inactive
  · intro inactive
    exact absurd still inactive
  · intro _
    obtain ⟨before, current, recorded⟩ := sound.active active
    obtain ⟨rfl, rfl⟩ := recorded.locate found unended own
    refine ⟨before, recorder, ?_⟩
    constructor
    · exact recorded.recorders
    · exact recorded.recorder
    · exact recorded.session
    · exact recorded.unended
    · exact recorded.number
    · exact recorded.ended
    · exact recorded.kept
    · exact recorded.indices
    · intro turning
      cases turning
    · refine recorded.segments.imp_right ?_
      rintro ⟨one, split, _⟩
      exact ⟨one, split, by simp⟩
    · exact recorded.whole
    · exact fun _ => halted

theorem Sound.halted (sound : page.Sound)
    (found : page.recorders[id]? = some recorder)
    (unended : recorder.ended = false)
    (current : recorder.session = page.session) (recording : Bool)
    (halted : recorder.recording = false → recording = false) :
    (page.setRecorder id { recorder with recording := recording }).Sound := by
  obtain ⟨before, last, recorded⟩ := sound.active
    (sound.active_of_current found unended current)
  have whole := recorded.whole recorder (List.mem_of_getElem? found) current
  exact sound.setCurrent found unended current rfl rfl unended whole halted

theorem Recorded.found (recorded : page.Recorded before current) :
    page.recorders[before.length]? = some current := by
  rw [recorded.recorders, List.getElem?_append_right le_rfl]
  simp

theorem setRecorder_found (found : page.recorders[id]? = some recorder)
    (after : MediaRecorder) :
    (page.setRecorder id after).recorders[id]? = some after := by
  have bound : id < page.recorders.length :=
    (List.getElem?_eq_some_iff.mp found).1
  simp [setRecorder, bound]

/-- Stopping asks the current recorder to stop, unless it has already. -/
theorem Sound.stopRecording_eq (browser : Browser) (sound : page.Sound)
    (mounted : page.mounted = true) (phase : page.phase = .recording) :
    ∃ before current, page.Recorded before current ∧
      page.stopRecording browser =
        { page.setRecorder before.length
            { current with recording := false } with
          phase := .stopping
          stopIntent := some .finish } := by
  obtain ⟨before, current, recorded⟩ := sound.active ⟨mounted, .inl phase⟩
  refine ⟨before, current, recorded, ?_⟩
  unfold stopRecording
  rw [if_neg (by simp [phase])]
  dsimp only
  split
  case h_2 silent => simp [recorded.recorder] at silent
  case h_1 id held =>
    obtain rfl : before.length = id := by
      simpa [recorded.recorder] using held
    rw [recorded.found]
    dsimp only
    split
    case isTrue => rfl
    case isFalse silent =>
      have same : { current with recording := false } = current := by
        simp only [Bool.not_eq_true] at silent
        cases current
        simp_all
      have kept : page.recorders.set before.length current =
          page.recorders := by
        rw [recorded.recorders, List.set_append_right _ _ le_rfl]
        simp
      simp only [setRecorder, same, kept]

theorem Sound.stopRecording (sound : page.Sound)
    (mounted : page.mounted = true) :
    (page.stopRecording browser).Sound := by
  by_cases phase : page.phase = .recording
  · obtain ⟨before, current, recorded, same⟩ :=
      sound.stopRecording_eq browser mounted phase
    rw [same]
    have halted := sound.halted recorded.found recorded.unended
      recorded.session false fun _ => rfl
    exact halted.stopping ⟨mounted, .inl phase⟩
      (setRecorder_found recorded.found _) recorded.unended recorded.session
      rfl page.error
  · rw [VoiceRecorder.stopRecording, if_pos phase]
    exact sound

theorem Sound.rotateSegment (sound : page.Sound)
    (mounted : page.mounted = true) (unsplit : page.splitStarted = false) :
    page.rotateSegment.Sound := by
  unfold VoiceRecorder.rotateSegment
  split
  case h_2 => exact sound
  case h_1 id held =>
    split
    case h_2 => exact sound
    case h_1 recorder found =>
      split
      case isFalse => exact sound
      case isTrue running =>
        have active : page.Active := ⟨mounted, .inl running.1⟩
        obtain ⟨before, current, recorded⟩ := sound.active active
        obtain rfl : before.length = id := by
          simpa [recorded.recorder] using held
        obtain rfl : current = recorder := by
          simpa [recorded.found] using found
        have halted := sound.halted found recorded.unended recorded.session
          false fun _ => rfl
        constructor
        · exact halted.requestsNodup
        · exact halted.requestsPast
        · exact halted.requested
        · exact halted.single
        · exact halted.live
        · exact halted.stream
        · exact halted.recordersPast
        · exact halted.unrecorded
        · intro requesting
          exact absurd active (Requesting.not_active requesting)
        · exact halted.settled
        · exact halted.nothingPending
        · intro _
          have whole := recorded.whole current
            (by simp [recorded.recorders]) recorded.session
          have set := recorded.setCurrent { current with recording := false }
            recorded.session recorded.unended rfl whole fun _ => rfl
          refine ⟨before, _, set.recorders, set.recorder, set.session,
            set.unended, set.number, set.ended, set.kept, set.indices,
            fun _ => rfl, .inl ?_, set.whole, fun _ => rfl⟩
          rcases recorded.segments with none | ⟨_, split, _⟩
          · exact none
          · rw [unsplit] at split
            cases split

theorem Sound.update (sound : page.Sound) (mounted : page.mounted = true)
    (now : ℚ) : (page.update browser now).Sound := by
  unfold VoiceRecorder.update
  dsimp only
  split
  case isTrue => exact sound.stopRecording mounted
  case isFalse =>
    split
    case isTrue split => exact sound.rotateSegment mounted split.2
    case isFalse => exact sound

/-- A mounted recorder that waits for nothing. -/
theorem Sound.idle (sound : page.Sound) (was : page.mounted = true)
    (mounted : next.mounted = true)
    (session : next.session = page.session) (phase : next.phase = .idle)
    (stream : next.stream = none) (live : next.live = [])
    (pending : next.pendingClips = [])
    (requests : next.requests.Sublist page.requests)
    (unrequested : page.session ∉ next.requests)
    (recorders : ∀ recorder ∈ next.recorders,
      recorder.session.UpTo page.session ∧
        (recorder.session = page.session → recorder.ended = true)) :
    next.Sound := by
  have inactive : ¬ next.Active := by
    rintro ⟨_, recording | stopping⟩
    · rw [phase] at recording
      cases recording
    · rw [phase] at stopping
      cases stopping
  have calm : ¬ next.Requesting := by
    rintro ⟨_, requesting⟩
    rw [phase] at requesting
    cases requesting
  constructor
  · exact sound.requestsNodup.sublist requests
  · intro one member
    rw [session]
    exact sound.requestsPast one (requests.subset member)
  · rw [session]
    exact iff_of_false unrequested calm
  · intro _ one member same
    rw [session] at same ⊢
    exact sound.single was one (requests.subset member) same
  · exact .inl live
  · rw [stream]
    exact iff_of_false (by simp) inactive
  · intro recorder member
    rw [session]
    exact (recorders recorder member).1
  · rintro (unmounted | requesting)
    · exact absurd (unmounted.symm.trans mounted) Bool.false_ne_true
    · exact absurd requesting calm
  · intro requesting
    exact absurd requesting calm
  · intro _ recorder member same
    exact (recorders recorder member).2 (same.trans session)
  · intro _
    exact pending
  · intro active
    exact absurd active inactive

/-- The answer to a call that the component no longer waits for. -/
theorem Sound.answerOther (sound : page.Sound)
    (other : session ≠ page.session) (granted : Nat) :
    Sound
      { page with
        requests := page.requests.erase session, granted := granted } := by
  have subset : (page.requests.erase session).Sublist page.requests :=
    List.erase_sublist
  constructor
  · exact sound.requestsNodup.sublist subset
  · intro one member
    exact sound.requestsPast one (subset.subset member)
  · exact (List.mem_erase_of_ne (Ne.symm other)).trans sound.requested
  · intro mounted one member
    exact sound.single mounted one (subset.subset member)
  · exact sound.live
  · exact sound.stream
  · exact sound.recordersPast
  · exact sound.unrecorded
  · exact sound.unstopped
  · exact sound.settled
  · exact sound.nothingPending
  · intro active
    obtain ⟨before, current, recorded⟩ := sound.active active
    exact ⟨before, current,
      recorded.of_same ⟨rfl, rfl, rfl, rfl, rfl, rfl, rfl, rfl⟩ rfl⟩

theorem stopMedia_eq_self (silent : page.stream = none) :
    page.stopMedia = page := by
  unfold stopMedia
  have all : page.live.filter (fun id => page.stream ≠ some id) =
      page.live := by
    rw [List.filter_eq_self]
    simp [silent]
  rw [all, ← silent]

theorem Sound.stream_of_inactive (sound : page.Sound)
    (inactive : ¬ page.Active) : page.stream = none := by
  rw [← sound.stream] at inactive
  simpa using inactive

theorem Sound.live_of_inactive (sound : page.Sound)
    (inactive : ¬ page.Active) : page.live = [] := by
  rcases sound.live with silent | ⟨id, held, _⟩
  · exact silent
  · rw [sound.stream_of_inactive inactive] at held
    cases held

/-- The recorders from before a request are not of its session. -/
theorem Sound.recorders_of_requesting (sound : page.Sound)
    (requesting : page.Requesting) :
    ∀ recorder ∈ page.recorders, recorder.session.UpTo page.session ∧
      (recorder.session = page.session → recorder.ended = true) := by
  intro recorder member
  exact ⟨sound.recordersPast recorder member, fun same =>
    absurd same (sound.unrecorded (.inr requesting) recorder member)⟩

/-- A request of the mounted component that is answered is the one that it
waits for. -/
theorem Sound.waiting_or_other (sound : page.Sound)
    (asked : session ∈ page.requests) :
    (session = page.session ∧ page.Requesting) ∨
      (session ≠ page.session ∧ page.isCurrent session = false ∧
        (session.mount = page.session.mount → page.mounted = false)) := by
  by_cases same : session = page.session
  · exact .inl ⟨same, sound.requested.mp (same ▸ asked)⟩
  · refine .inr ⟨same, by simp [isCurrent, same], ?_⟩
    intro mount
    by_contra mounted
    exact same (sound.single (by simpa using mounted) session asked mount)

theorem startFailed_eq (page : VoiceRecorder) (mounted : page.mounted = true)
    (same : page.session = session) :
    page.startFailed session =
      { page.stopMedia with phase := .idle, error := some .micOff } := by
  subst same
  have current : page.stopMedia.isCurrent page.session = true :=
    isCurrent_eq_true.mpr ⟨mounted, rfl⟩
  unfold startFailed
  dsimp only
  rw [if_pos rfl, if_pos current]

theorem Sound.denied (sound : page.Sound) (asked : session ∈ page.requests) :
    (startFailed { page with requests := page.requests.erase session }
      session).Sound := by
  rcases sound.waiting_or_other asked with
    ⟨rfl, requesting⟩ | ⟨other, gone, unmounted⟩
  · rw [startFailed_eq { page with
      requests := page.requests.erase page.session } requesting.1 rfl]
    dsimp only
    have inactive := requesting.not_active
    refine sound.idle requesting.1 requesting.1 rfl rfl rfl ?_
      (sound.nothingPending inactive) List.erase_sublist
      (sound.requestsNodup.not_mem_erase)
      (sound.recorders_of_requesting requesting)
    simp [stopMedia, sound.live_of_inactive inactive]
  · unfold startFailed
    dsimp only
    have silent : (if session.mount = page.session.mount then
        stopMedia { page with requests := page.requests.erase session }
        else { page with requests := page.requests.erase session }) =
        { page with requests := page.requests.erase session } := by
      split
      case isTrue mount =>
        apply stopMedia_eq_self
        apply sound.stream_of_inactive
        rintro ⟨mounted, _⟩
        rw [unmounted mount] at mounted
        cases mounted
      case isFalse => rfl
    rw [silent, if_neg (by simpa [isCurrent] using gone)]
    exact sound.answerOther other page.granted

/-- A segment starts, or it throws before the recorder exists or after. -/
theorem startSegment_cases (browser : Browser) (page : VoiceRecorder)
    (held : page.stream.isSome = true)
    (current : page.isCurrent session = true) (mimeType : Option String)
    (failure : Option StartFailure) :
    page.startSegment browser session mimeType failure = (page, true) ∨
      ∃ recorder throws,
        page.startSegment browser session mimeType failure =
          ({ page with
              recorder := some page.recorders.length
              recorders := page.recorders ++ [recorder] }, throws) ∧
        recorder.session = session ∧ recorder.ended = throws ∧
        recorder.segmentNumber = page.pendingClips.length + 1 ∧
        recorder.chunks = [] ∧ recorder.emitted = [] := by
  unfold startSegment
  rw [if_neg (by simp [Option.isSome_iff_ne_none.mp held, current])]
  split
  · exact .inl rfl
  · exact .inr ⟨_, _, rfl, rfl, rfl, rfl, rfl, rfl⟩

/-- The first segment of a session. -/
theorem Sound.starts (sound : page.Sound) (requesting : page.Requesting)
    (session : recorder.session = page.session)
    (unended : recorder.ended = false) (number : recorder.segmentNumber = 1)
    (chunks : recorder.chunks = []) (emitted : recorder.emitted = [])
    (startedAt : ℚ) :
    Sound
      { page with
        requests := page.requests.erase page.session
        granted := page.granted + 1
        live := page.granted :: page.live
        stream := some page.granted
        startedAt := startedAt
        recorder := some page.recorders.length
        recorders := page.recorders ++ [recorder]
        phase := .recording } := by
  have inactive := requesting.not_active
  have nothing := sound.nothingPending inactive
  have answered : page.session ∉ page.requests.erase page.session :=
    sound.requestsNodup.not_mem_erase
  have none : page.recorders.filter (·.session = page.session) = [] := by
    rw [List.filter_eq_nil_iff]
    intro one member
    simpa using sound.unrecorded (.inr requesting) one member
  constructor
  · exact sound.requestsNodup.sublist List.erase_sublist
  · intro one member
    exact sound.requestsPast one (List.erase_sublist.subset member)
  · refine iff_of_false answered ?_
    rintro ⟨_, waiting⟩
    cases waiting
  · intro mounted one member
    exact sound.single mounted one (List.erase_sublist.subset member)
  · refine .inr ⟨page.granted, rfl, ?_⟩
    dsimp only
    rw [sound.live_of_inactive inactive]
  · exact iff_of_true rfl ⟨requesting.1, .inl rfl⟩
  · intro one member
    rcases List.mem_append.mp member with kept | new
    · exact sound.recordersPast one kept
    · rw [List.mem_singleton.mp new, session]
      exact Session.upTo_self _
  · rintro (unmounted | ⟨_, waiting⟩)
    · exact absurd (unmounted.symm.trans requesting.1) Bool.false_ne_true
    · cases waiting
  · rintro ⟨_, waiting⟩
    cases waiting
  · intro silent
    exact absurd ⟨requesting.1, .inl rfl⟩ silent
  · intro silent
    exact absurd ⟨requesting.1, .inl rfl⟩ silent
  · intro _
    refine ⟨page.recorders, recorder, rfl, rfl, session, unended, ?_, ?_, ?_,
      ?_, ?_, .inl none, ?_, ?_⟩
    · rw [number]
      dsimp only
      rw [nothing, List.length_nil]
    · intro one member same
      exact absurd same (sound.unrecorded (.inr requesting) one member)
    · dsimp only
      rw [none, nothing]
      rfl
    · dsimp only
      rw [nothing]
      rfl
    · intro turning
      exact absurd ((sound.unstopped requesting).symm.trans turning)
        (by simp)
    · intro one member same
      rcases List.mem_append.mp member with kept | new
      · exact absurd same (sound.unrecorded (.inr requesting) one kept)
      · rw [List.mem_singleton.mp new, chunks, emitted]
    · intro stopping
      cases stopping

/-- A session that does not get as far as recording. -/
theorem Sound.givesUp (sound : page.Sound) (requesting : page.Requesting)
    (extra : List MediaRecorder)
    (unused : ∀ recorder ∈ extra,
      recorder.session = page.session ∧ recorder.ended = true)
    (requests : next.requests = page.requests.erase page.session)
    (mounted : next.mounted = true) (session : next.session = page.session)
    (stream : next.stream = some page.granted)
    (live : next.live = page.granted :: page.live)
    (pending : next.pendingClips = page.pendingClips)
    (recorders : next.recorders = page.recorders ++ extra) :
    (next.startFailed page.session).Sound := by
  have inactive := requesting.not_active
  have subset : next.requests.Sublist page.requests := by
    rw [requests]
    exact List.erase_sublist
  have answered : page.session ∉ next.requests := by
    rw [requests]
    exact sound.requestsNodup.not_mem_erase
  rw [startFailed_eq next mounted session]
  refine sound.idle requesting.1 mounted session rfl rfl ?_
    (pending.trans (sound.nothingPending inactive)) subset answered ?_
  · simp [stopMedia, live, stream, sound.live_of_inactive inactive]
  · intro recorder member
    have inside : recorder ∈ page.recorders ++ extra := recorders ▸ member
    rcases List.mem_append.mp inside with kept | new
    · exact sound.recorders_of_requesting requesting recorder kept
    · obtain ⟨same, ended⟩ := unused recorder new
      rw [same]
      exact ⟨Session.upTo_self _, fun _ => ended⟩

theorem Sound.granted (sound : page.Sound) (asked : session ∈ page.requests)
    (now : ℚ) (failure : Option StartFailure) :
    (useStream browser
      { page with requests := page.requests.erase session } session now
      failure).Sound := by
  unfold useStream
  rcases sound.waiting_or_other asked with
    ⟨rfl, requesting⟩ | ⟨other, gone, _⟩
  · have current : isCurrent
        { page with requests := page.requests.erase page.session }
        page.session = true :=
      isCurrent_eq_true.mpr ⟨requesting.1, rfl⟩
    rw [if_pos current]
    dsimp only
    split
    case isTrue =>
      exact sound.givesUp requesting [] (by simp) rfl
        requesting.1 rfl rfl rfl rfl (by simp)
    case isFalse =>
      rcases startSegment_cases browser
          { page with
            requests := page.requests.erase page.session
            granted := page.granted + 1
            live := page.granted :: page.live
            stream := some page.granted
            startedAt := now } rfl
          (isCurrent_eq_true.mpr ⟨requesting.1, rfl⟩) browser.pickMimeType
          failure with
        thrown | ⟨recorder, throws, started, same, ended, number, empty,
          silent⟩
      · rw [thrown]
        exact sound.givesUp requesting [] (by simp) rfl
          requesting.1 rfl rfl rfl rfl (by simp)
      · rw [started]
        cases throws with
        | true =>
            refine sound.givesUp requesting [recorder] ?_ rfl
              requesting.1 rfl rfl rfl rfl rfl
            intro one member
            rw [List.mem_singleton.mp member]
            exact ⟨same, ended⟩
        | false =>
            have nothing := sound.nothingPending requesting.not_active
            refine sound.starts requesting same ended ?_ empty silent now
            rw [number]
            dsimp only
            rw [nothing, List.length_nil]
  · rw [if_neg (by simpa [isCurrent] using gone)]
    exact sound.answerOther other (page.granted + 1)

theorem Sound.startRecording (sound : page.Sound)
    (mounted : page.mounted = true) (phase : page.phase = .idle)
    (supported : Bool) (uuid : String) :
    (page.startRecording supported uuid).Sound := by
  have inactive : ¬ page.Active := by
    rintro ⟨_, recording | stopping⟩
    · rw [phase] at recording
      cases recording
    · rw [phase] at stopping
      cases stopping
  have unasked : page.session ∉ page.requests := by
    intro member
    have waiting := (sound.requested.mp member).2
    rw [phase] at waiting
    cases waiting
  unfold VoiceRecorder.startRecording
  split
  case isFalse =>
    exact sound.of_same ⟨rfl, rfl, rfl, rfl, rfl, rfl, rfl, rfl⟩
      (fun _ => rfl) rfl rfl (List.Sublist.refl _)
  case isTrue =>
    have newer : page.session.following ∉ page.requests := by
      intro member
      exact (sound.requestsPast _ member).ne_following rfl
    have silent : ¬ Active
        { page with
          error := none, session := page.session.following
          phase := .requesting, pendingClips := [], recordingId := uuid
          stopIntent := none, splitStarted := false
          requests := page.requests ++ [page.session.following]
          uuids := uuid :: page.uuids } := by
      rintro ⟨_, recording | stopping⟩
      · cases recording
      · cases stopping
    constructor
    · exact sound.requestsNodup.append (List.nodup_singleton _)
        (List.disjoint_singleton.mpr newer)
    · intro one member
      rcases List.mem_append.mp member with kept | new
      · exact (sound.requestsPast one kept).following
      · rw [List.mem_singleton.mp new]
        exact Session.upTo_self _
    · exact iff_of_true (List.mem_append_right _ List.mem_cons_self)
        ⟨mounted, rfl⟩
    · intro _ one member same
      rcases List.mem_append.mp member with kept | new
      · exact absurd (sound.single mounted one kept same ▸ kept) unasked
      · exact List.mem_singleton.mp new
    · exact .inl (sound.live_of_inactive inactive)
    · refine iff_of_false ?_ silent
      rw [show _ = page.stream from rfl, sound.stream_of_inactive inactive]
      simp
    · intro one member
      exact (sound.recordersPast one member).following
    · intro _ one member
      exact (sound.recordersPast one member).ne_following
    · intro _
      rfl
    · intro _ one member same
      exact absurd same (sound.recordersPast one member).ne_following
    · intro _
      rfl
    · intro active
      exact absurd active silent

theorem Sound.mount (sound : page.Sound) (unmounted : page.mounted = false) :
    page.mount.Sound := by
  have inactive : ¬ page.Active := by
    rintro ⟨mounted, _⟩
    rw [unmounted] at mounted
    cases mounted
  have silent : ¬ page.mount.Active := by
    rintro ⟨_, recording | stopping⟩
    · cases recording
    · cases stopping
  have calm : ¬ page.mount.Requesting := by
    rintro ⟨_, waiting⟩
    cases waiting
  have earlier : ∀ one ∈ page.requests,
      one.mount ≠ page.session.remounted.mount := by
    intro one member same
    have past := sound.requestsPast one member
    unfold Session.UpTo Session.remounted at *
    dsimp only at same
    omega
  constructor
  · exact sound.requestsNodup
  · intro one member
    exact (sound.requestsPast one member).remounted
  · refine iff_of_false ?_ calm
    intro member
    exact earlier _ member rfl
  · intro _ one member same
    exact absurd same (earlier one member)
  · exact .inl (sound.live_of_inactive inactive)
  · exact iff_of_false (by simp [VoiceRecorder.mount]) silent
  · intro one member
    exact (sound.recordersPast one member).remounted
  · intro _ one member
    exact (sound.recordersPast one member).ne_remounted
  · intro requesting
    exact absurd requesting calm
  · intro _ one member same
    exact absurd same (sound.recordersPast one member).ne_remounted
  · intro _
    rfl
  · intro active
    exact absurd active silent

/-- The microphone is off and nothing is pending, whatever was recorded. -/
theorem Sound.unmounted (sound : page.Sound)
    (session : next.session = page.session.following)
    (mounted : next.mounted = false) (live : next.live = [])
    (stream : next.stream = none) (pending : next.pendingClips = [])
    (requests : next.requests = page.requests)
    (recorders : ∀ recorder ∈ next.recorders,
      recorder.session.UpTo page.session) : next.Sound := by
  have silent : ¬ next.Active := by
    rintro ⟨still, _⟩
    rw [mounted] at still
    cases still
  have calm : ¬ next.Requesting := by
    rintro ⟨still, _⟩
    rw [mounted] at still
    cases still
  constructor
  · rw [requests]
    exact sound.requestsNodup
  · rw [requests, session]
    intro one member
    exact (sound.requestsPast one member).following
  · refine iff_of_false ?_ calm
    rw [requests, session]
    intro member
    exact (sound.requestsPast _ member).ne_following rfl
  · intro still
    exact absurd (mounted.symm.trans still) Bool.false_ne_true
  · exact .inl live
  · rw [stream]
    exact iff_of_false (by simp) silent
  · rw [session]
    intro one member
    exact (recorders one member).following
  · rw [session]
    intro _ one member
    exact (recorders one member).ne_following
  · intro requesting
    exact absurd requesting calm
  · rw [session]
    intro _ one member same
    exact absurd same (recorders one member).ne_following
  · intro _
    exact pending
  · intro active
    exact absurd active silent

theorem Sound.unmount (sound : page.Sound) : page.unmount.Sound := by
  unfold VoiceRecorder.unmount
  dsimp only
  split
  case h_2 =>
    exact sound.unmounted rfl rfl sound.stopMedia_live rfl rfl rfl
      sound.recordersPast
  case h_1 id _ =>
    split
    case h_2 =>
      exact sound.unmounted rfl rfl sound.stopMedia_live rfl rfl rfl
        sound.recordersPast
    case h_1 recorder found =>
      refine sound.unmounted rfl rfl sound.stopMedia_live rfl rfl rfl ?_
      intro one member
      rcases List.mem_or_eq_of_mem_set member with kept | rfl
      · exact sound.recordersPast one kept
      · exact sound.recordersPast recorder (List.mem_of_getElem? found)

end VoiceRecorder

end JanSetu.Frontend
