import JanSetu.Frontend.Microphone

/-!
# The recordings

What becomes of a session when a recorder stops, and everything that an event
can do.
-/

namespace JanSetu.Frontend

namespace VoiceRecorder

/-- All recorders of the session have fired their last event, and what they
recorded is in the pending clips. -/
structure Complete (page : VoiceRecorder) : Prop where
  ended : ∀ recorder ∈ page.recorders, recorder.session = page.session →
    recorder.ended = true
  kept : page.pendingClips =
    clipsOf page.recordingId (page.ofSession page.session)
  indices : page.pendingClips.map (·.segmentIndex) =
    List.range page.pendingClips.length
  whole : ∀ recorder ∈ page.recorders, recorder.session = page.session →
    recorder.chunks.flatten = recorder.emitted.flatten

variable {browser : Browser} {page next : VoiceRecorder} {session : Session}
  {id : Nat} {recorder after current : MediaRecorder}
  {before : List MediaRecorder}

/-! ## When a recorder stops -/

theorem clipsOf_append (recordingId : String)
    (first second : List MediaRecorder) :
    clipsOf recordingId (first ++ second) =
      clipsOf recordingId first ++ clipsOf recordingId second := by
  simp [clipsOf]

theorem clipsOf_singleton (recordingId : String) (recorder : MediaRecorder) :
    clipsOf recordingId [recorder] =
      if recorder.chunks.flatten = [] then []
      else [recorder.clip recordingId] := by
  unfold clipsOf
  by_cases empty : recorder.chunks.flatten = []
  · rw [if_pos empty, List.filter_cons_of_neg (by simpa using empty)]
    rfl
  · rw [if_neg empty, List.filter_cons_of_pos (by simpa using empty)]
    rfl

/-- The last recorder of the session has stopped and its clip is kept. -/
theorem Recorded.keepClip (recorded : page.Recorded before current)
    (mounted : page.mounted = true)
    (after : MediaRecorder) (session : after.session = current.session)
    (number : after.segmentNumber = current.segmentNumber)
    (ended : after.ended = true) (chunks : after.chunks = current.chunks)
    (emitted : after.emitted = current.emitted) :
    Complete ((page.setRecorder before.length after).keepClip before.length
      after) := by
  have own : after.session = page.session := session.trans recorded.session
  have rows : page.recorders.set before.length after = before ++ [after] := by
    rw [recorded.recorders, List.set_append_right _ _ le_rfl]
    simp
  have whole : after.chunks.flatten = after.emitted.flatten := by
    rw [chunks, emitted]
    exact recorded.whole current (by simp [recorded.recorders])
      recorded.session
  have now : isCurrent (page.setRecorder before.length after) after.session =
      true :=
    isCurrent_eq_true.mpr ⟨mounted, own⟩
  have pending : ((page.setRecorder before.length after).keepClip
      before.length after).pendingClips =
        page.pendingClips ++ clipsOf page.recordingId [after] := by
    rw [clipsOf_singleton]
    unfold VoiceRecorder.keepClip
    dsimp only
    by_cases empty : after.chunks.flatten = []
    · rw [if_neg (fun both => both.2 empty), if_pos empty, List.append_nil]
      rfl
    · rw [if_pos ⟨now, empty⟩, if_neg empty]
      rfl
  constructor
  · intro one member same
    have inside : one ∈ before ++ [after] := rows ▸ member
    rcases List.mem_append.mp inside with kept | new
    · exact recorded.ended one kept same
    · rw [List.mem_singleton.mp new]
      exact ended
  · have mine : (page.recorders.set before.length after).filter
        (·.session = page.session) =
          before.filter (·.session = page.session) ++ [after] := by
      rw [rows, List.filter_append]
      simp [own]
    rw [pending, recorded.kept, ← clipsOf_append, ← mine]
    rfl
  · rw [pending, clipsOf_singleton, List.map_append, recorded.indices]
    split
    case isTrue => simp
    case isFalse =>
      simp [MediaRecorder.clip, number, recorded.number, List.range_succ]
  · intro one member same
    have inside : one ∈ before ++ [after] := rows ▸ member
    rcases List.mem_append.mp inside with kept | new
    · exact recorded.whole one
        (recorded.recorders ▸ List.mem_append_left _ kept) same
    · rw [List.mem_singleton.mp new]
      exact whole

/-- The clips of a session go to the parent all at once. -/
theorem finishSession_eq (browser : Browser) (page : VoiceRecorder)
    (mounted : page.mounted = true) (same : page.session = session) :
    page.finishSession browser session =
      { page.stopMedia with
        clips := page.clips ++ page.pendingClips
        previewing :=
          if browser.previewEnabled then
            page.previewing ++
              page.pendingClips.map fun clip => (session.mount, clip)
          else page.previewing
        delivered := page.delivered ++ page.pendingClips
        pendingClips := []
        stopIntent := none
        recorder := none
        phase := .idle } := by
  subst same
  have current : page.stopMedia.isCurrent page.session = true :=
    isCurrent_eq_true.mpr ⟨mounted, rfl⟩
  unfold finishSession
  dsimp only
  rw [if_pos current]
  rfl

/-- No preview is asked for, answered or shown. -/
structure SamePreviews (page next : VoiceRecorder) : Prop where
  previews : next.previews = page.previews
  previewing : next.previewing = page.previewing
  answers : next.answers = page.answers

/-- The end of a session: the parent is given the clips of all its recorders,
which have handed over all that they recorded. -/
structure Delivers (page next : VoiceRecorder) : Prop where
  few : (next.ofSession page.session).length ≤ 2
  mounted : next.mounted = true
  session : next.session = page.session
  phase : next.phase = .idle
  live : next.live = []
  uuids : next.uuids = page.uuids
  recordingId : next.recordingId = page.recordingId
  clips : next.clips = page.clips ++
    clipsOf page.recordingId (next.ofSession page.session)
  delivered : next.delivered = page.delivered ++
    clipsOf page.recordingId (next.ofSession page.session)
  indices :
    (clipsOf page.recordingId (next.ofSession page.session)).map
        (·.segmentIndex) =
      List.range
        (clipsOf page.recordingId (next.ofSession page.session)).length
  whole : ∀ recorder ∈ next.ofSession page.session,
    recorder.ended = true ∧
      recorder.chunks.flatten = recorder.emitted.flatten
  previews : next.previews = page.previews
  previewing : ∀ entry ∈ next.previewing,
    entry ∈ page.previewing ∨ entry.2 ∈ next.delivered
  answers : next.answers = page.answers

/-- The session goes on and the parent is given nothing. -/
structure Continues (page next : VoiceRecorder) : Prop where
  mounted : next.mounted = page.mounted
  session : next.session = page.session
  recordingId : next.recordingId = page.recordingId
  uuids : next.uuids = page.uuids
  clips : next.clips = page.clips
  delivered : next.delivered = page.delivered
  previews : next.previews = page.previews
  previewing : next.previewing = page.previewing
  answers : next.answers = page.answers

theorem Continues.trans {between : VoiceRecorder}
    (first : page.Continues between) (second : between.Continues next) :
    page.Continues next :=
  ⟨second.mounted.trans first.mounted, second.session.trans first.session,
    second.recordingId.trans first.recordingId,
    second.uuids.trans first.uuids, second.clips.trans first.clips,
    second.delivered.trans first.delivered,
    second.previews.trans first.previews,
    second.previewing.trans first.previewing,
    second.answers.trans first.answers⟩

theorem Complete.finishSession {page done : VoiceRecorder}
    (complete : done.Complete) (sound : page.Sound) (active : page.Active)
    (browser : Browser) (continues : page.Continues done)
    (stream : done.stream = page.stream) (live : done.live = page.live)
    (requests : done.requests = page.requests)
    (past : ∀ recorder ∈ done.recorders, recorder.session.UpTo page.session)
    (few : (done.ofSession page.session).length ≤ 2) :
    (done.finishSession browser page.session).Sound ∧
      page.Delivers (done.finishSession browser page.session) := by
  have mounted : done.mounted = true := continues.mounted.trans active.1
  have silent : done.stopMedia.live = [] := by
    have same : done.stopMedia.live = page.stopMedia.live := by
      unfold stopMedia
      rw [stream, live]
    rw [same, sound.stopMedia_live]
  have subset : done.requests.Sublist page.requests := by
    rw [requests]
  rw [finishSession_eq browser done mounted continues.session]
  constructor
  · refine sound.idle active.1 mounted continues.session rfl rfl silent rfl
      subset ?_ ?_
    · dsimp only [stopMedia]
      rw [requests]
      exact sound.not_requested active
    · intro recorder member
      refine ⟨past recorder member, fun same => ?_⟩
      exact complete.ended recorder member (same.trans continues.session.symm)
  · have kept : done.pendingClips =
        clipsOf page.recordingId (done.ofSession page.session) := by
      rw [← continues.session, ← continues.recordingId]
      exact complete.kept
    constructor
    · exact few
    · exact mounted
    · exact continues.session
    · rfl
    · exact silent
    · exact continues.uuids
    · exact continues.recordingId
    · dsimp only
      rw [continues.clips, kept]
      rfl
    · dsimp only
      rw [continues.delivered, kept]
      rfl
    · have numbered := complete.indices
      rw [kept] at numbered
      exact numbered
    · intro recorder member
      obtain ⟨inside, same⟩ := List.mem_filter.mp member
      have own : recorder.session = done.session :=
        (decide_eq_true_iff.mp same).trans continues.session.symm
      exact ⟨complete.ended recorder inside own,
        complete.whole recorder inside own⟩
    · exact continues.previews
    · intro entry member
      dsimp only at member
      rw [continues.previewing] at member
      split at member
      case isTrue =>
        rcases List.mem_append.mp member with earlier | new
        · exact .inl earlier
        · obtain ⟨clip, pending, rfl⟩ := List.mem_map.mp new
          exact .inr (List.mem_append_right _ pending)
      case isFalse => exact .inl member
    · exact continues.answers

theorem clipsOf_ofSession_append (recordingId : String)
    (recorders : List MediaRecorder) (session : Session)
    (empty : recorder.chunks = []) :
    clipsOf recordingId
        ((recorders ++ [recorder]).filter (·.session = session)) =
      clipsOf recordingId (recorders.filter (·.session = session)) := by
  have nothing : clipsOf recordingId
      ([recorder].filter (·.session = session)) = [] := by
    by_cases same : recorder.session = session
    · rw [List.filter_cons_of_pos (by simpa using same), List.filter_nil,
        clipsOf_singleton, if_pos (by simp [empty])]
    · rw [List.filter_cons_of_neg (by simpa using same)]
      rfl
  rw [List.filter_append, clipsOf_append, nothing, List.append_nil]

/-- A segment whose recorder throws when it is started records nothing. -/
theorem Complete.extend {done further : VoiceRecorder}
    (complete : done.Complete) (ended : recorder.ended = true)
    (chunks : recorder.chunks = []) (emitted : recorder.emitted = [])
    (recorders : further.recorders = done.recorders ++ [recorder])
    (session : further.session = done.session)
    (pending : further.pendingClips = done.pendingClips)
    (recordingId : further.recordingId = done.recordingId) :
    further.Complete := by
  constructor
  · rw [recorders, session]
    intro one member same
    rcases List.mem_append.mp member with kept | new
    · exact complete.ended one kept same
    · rw [List.mem_singleton.mp new]
      exact ended
  · unfold ofSession
    rw [recorders, session, pending, recordingId,
      clipsOf_ofSession_append _ _ _ chunks]
    exact complete.kept
  · rw [pending]
    exact complete.indices
  · rw [recorders, session]
    intro one member same
    rcases List.mem_append.mp member with kept | new
    · exact complete.whole one kept same
    · rw [List.mem_singleton.mp new, chunks, emitted]

/-- The second segment of a session. -/
theorem Sound.rotates (sound : page.Sound) (active : page.Active)
    {turned : VoiceRecorder} (complete : turned.Complete)
    (continues : page.Continues turned) (phase : turned.phase = page.phase)
    (streams : turned.stream = page.stream ∧ turned.live = page.live ∧
      turned.requests = page.requests)
    (running : page.phase = .recording)
    (intent : turned.stopIntent = none) (split : turned.splitStarted = true)
    (single : (turned.ofSession page.session).length = 1)
    (past : ∀ recorder ∈ turned.recorders, recorder.session.UpTo page.session)
    (session : recorder.session = page.session)
    (unended : recorder.ended = false)
    (number : recorder.segmentNumber = turned.pendingClips.length + 1)
    (chunks : recorder.chunks = []) (emitted : recorder.emitted = []) :
    Sound
      { turned with
        recorder := some turned.recorders.length
        recorders := turned.recorders ++ [recorder] } := by
  have mounted : turned.mounted = true := continues.mounted.trans active.1
  have still : Active
      { turned with
        recorder := some turned.recorders.length
        recorders := turned.recorders ++ [recorder] } := by
    refine ⟨mounted, ?_⟩
    dsimp only
    rw [phase]
    exact active.2
  have own := session.trans continues.session.symm
  constructor
  · rw [show _ = turned.requests from rfl, streams.2.2]
    exact sound.requestsNodup
  · dsimp only
    rw [streams.2.2, continues.session]
    exact sound.requestsPast
  · refine iff_of_false ?_ fun requesting => requesting.not_active still
    dsimp only
    rw [streams.2.2, continues.session]
    exact sound.not_requested active
  · dsimp only
    rw [streams.2.2, continues.session]
    intro _
    exact sound.single active.1
  · dsimp only
    rw [streams.1, streams.2.1]
    exact sound.live
  · refine iff_of_true ?_ still
    dsimp only
    rw [streams.1]
    exact sound.stream.mpr active
  · intro one member
    dsimp only
    rw [continues.session]
    rcases List.mem_append.mp member with kept | new
    · exact past one kept
    · rw [List.mem_singleton.mp new, session]
      exact Session.upTo_self _
  · rintro (unmounted | requesting)
    · exact absurd (unmounted.symm.trans mounted) Bool.false_ne_true
    · exact absurd still requesting.not_active
  · intro requesting
    exact absurd still requesting.not_active
  · intro silent
    exact absurd still silent
  · intro silent
    exact absurd still silent
  · intro _
    refine ⟨turned.recorders, recorder, rfl, rfl, own, unended, number,
      complete.ended, complete.kept, complete.indices, fun _ => split,
      .inr ⟨?_, split, ?_⟩, ?_, ?_⟩
    · dsimp only
      rw [continues.session]
      exact single
    · dsimp only
      rw [intent]
      simp
    · intro one member same
      rcases List.mem_append.mp member with kept | new
      · exact complete.whole one kept same
      · rw [List.mem_singleton.mp new, chunks, emitted]
    · dsimp only
      rw [phase, running]
      intro stopping
      cases stopping

/-- Once the clip of the last recorder is kept, the session ends or its second
segment starts. -/
theorem Sound.nextSegment (sound : page.Sound) (active : page.Active)
    {kept : VoiceRecorder} (complete : kept.Complete)
    (continues : page.Continues kept) (phase : kept.phase = page.phase)
    (streams : kept.stream = page.stream ∧ kept.live = page.live ∧
      kept.requests = page.requests)
    (split : kept.stopIntent = some .rotate →
      kept.splitStarted = true ∧ (kept.ofSession page.session).length = 1)
    (past : ∀ recorder ∈ kept.recorders, recorder.session.UpTo page.session)
    (few : (kept.ofSession page.session).length ≤ 2)
    (browser : Browser) (mimeType : Option String)
    (failure : Option StartFailure)
    (stopped : kept.nextSegment browser page.session mimeType failure =
      next) :
    next.Sound ∧
      ((next.Active ∧ page.Continues next ∧ page.phase = .recording) ∨
        page.Delivers next) := by
  have mounted : kept.mounted = true := continues.mounted.trans active.1
  subst stopped
  unfold VoiceRecorder.nextSegment
  split
  case isFalse =>
    obtain ⟨after, delivers⟩ := complete.finishSession sound active browser
      continues streams.1 streams.2.1 streams.2.2 past few
    exact ⟨after, .inr delivers⟩
  case isTrue turning =>
    dsimp only
    rcases startSegment_cases browser { kept with stopIntent := none }
        (by
          dsimp only
          rw [streams.1]
          exact sound.stream.mpr active)
        (isCurrent_eq_true.mpr ⟨mounted, continues.session.symm⟩) mimeType
        failure with
      thrown | ⟨second, throws, started, same, ended, number, empty, silent⟩
    · rw [thrown]
      have failed : Complete
          { kept with
            stopIntent := none, error := some .voiceCannotContinue } :=
        ⟨complete.ended, complete.kept, complete.indices, complete.whole⟩
      obtain ⟨after, delivers⟩ := failed.finishSession sound active browser
        (continues.trans ⟨rfl, rfl, rfl, rfl, rfl, rfl, rfl, rfl, rfl⟩)
        streams.1 streams.2.1 streams.2.2 past few
      exact ⟨after, .inr delivers⟩
    · rw [started]
      cases throws with
      | true =>
          have failed : Complete
              { kept with
                stopIntent := none
                recorder := some kept.recorders.length
                recorders := kept.recorders ++ [second]
                error := some .voiceCannotContinue } :=
            complete.extend ended empty silent rfl rfl rfl rfl
          have grown : ∀ one ∈ kept.recorders ++ [second],
              one.session.UpTo page.session := by
            intro one member
            rcases List.mem_append.mp member with earlier | new
            · exact past one earlier
            · rw [List.mem_singleton.mp new, same]
              exact Session.upTo_self _
          have two : ((kept.recorders ++ [second]).filter
              (·.session = page.session)).length ≤ 2 := by
            have one : (kept.recorders.filter
                (·.session = page.session)).length = 1 :=
              (split turning.1).2
            rw [List.filter_append, List.length_append, one]
            have last := List.length_filter_le (·.session = page.session)
              [second]
            simp only [List.length_singleton] at last
            omega
          obtain ⟨after, delivers⟩ := failed.finishSession sound active
            browser
            (continues.trans ⟨rfl, rfl, rfl, rfl, rfl, rfl, rfl, rfl, rfl⟩)
            streams.1 streams.2.1 streams.2.2 grown two
          exact ⟨after, .inr delivers⟩
      | false =>
          have unturned : Complete { kept with stopIntent := none } :=
            ⟨complete.ended, complete.kept, complete.indices, complete.whole⟩
          have after := sound.rotates active unturned
            (continues.trans ⟨rfl, rfl, rfl, rfl, rfl, rfl, rfl, rfl, rfl⟩)
            phase streams (phase.symm.trans turning.2) rfl
            (split turning.1).1 (split turning.1).2 past same ended number
            empty silent
          refine ⟨after, .inl ⟨⟨mounted, ?_⟩, ?_,
            phase.symm.trans turning.2⟩⟩
          · dsimp only
            rw [phase]
            exact active.2
          · exact continues.trans ⟨rfl, rfl, rfl, rfl, rfl, rfl, rfl, rfl, rfl⟩

/-- The stop event of a recorder of the mounted component. -/
theorem Sound.onstop_current (sound : page.Sound)
    (found : page.recorders[id]? = some recorder)
    (unended : recorder.ended = false)
    (own : recorder.session = page.session) (browser : Browser)
    (failure : Option StartFailure)
    (stopped : onstop browser
      (page.setRecorder id { recorder with recording := false, ended := true })
      id { recorder with recording := false, ended := true } failure =
        next) :
    next.Sound ∧
      ((next.Active ∧ page.Continues next ∧ page.phase = .recording) ∨
        page.Delivers next) := by
  have active := sound.active_of_current found unended own
  obtain ⟨before, current, recorded⟩ := sound.active active
  obtain ⟨rfl, rfl⟩ := recorded.locate found unended own
  generalize ending : ({ recorder with recording := false, ended := true } :
    MediaRecorder) = after at stopped
  have same : after.session = recorder.session := by rw [← ending]
  have complete := recorded.keepClip active.1 after same (by rw [← ending])
    (by rw [← ending]) (by rw [← ending]) (by rw [← ending])
  have rows : page.recorders.set before.length after = before ++ [after] := by
    rw [recorded.recorders, List.set_append_right _ _ le_rfl]
    simp
  have now : isCurrent
      ((page.setRecorder before.length after).keepClip before.length after)
      after.session = true :=
    isCurrent_eq_true.mpr ⟨active.1, same.trans own⟩
  unfold onstop at stopped
  dsimp only at stopped
  rw [if_pos now, same, own] at stopped
  have mine : ofSession
      ((page.setRecorder before.length after).keepClip before.length after)
      page.session =
        before.filter (·.session = page.session) ++ [after] := by
    change (page.recorders.set before.length after).filter
      (·.session = page.session) = _
    rw [rows, List.filter_append]
    simp [same, own]
  have split : page.stopIntent = some .rotate →
      page.splitStarted = true ∧
        (ofSession ((page.setRecorder before.length after).keepClip
          before.length after) page.session).length = 1 := by
    intro turning
    refine ⟨recorded.rotating turning, ?_⟩
    rcases recorded.segments with none | ⟨_, _, other⟩
    · rw [mine, none]
      rfl
    · exact absurd turning other
  have few : (ofSession ((page.setRecorder before.length after).keepClip
      before.length after) page.session).length ≤ 2 := by
    rw [mine, List.length_append]
    rcases recorded.segments with none | ⟨one, _⟩
    · simp [none]
    · simp [one]
  have past : ∀ one ∈ page.recorders.set before.length after,
      one.session.UpTo page.session := by
    intro one member
    rcases List.mem_or_eq_of_mem_set member with kept | rfl
    · exact sound.recordersPast one kept
    · rw [same]
      exact sound.recordersPast recorder (List.mem_of_getElem? found)
  have ends := sound.nextSegment active complete
    ⟨rfl, rfl, rfl, rfl, rfl, rfl, rfl, rfl, rfl⟩ rfl ⟨rfl, rfl, rfl⟩
    split past few browser _ failure stopped
  exact ends

/-! ## What an event can do -/

variable {event : RecorderEvent}

def Busy (page : VoiceRecorder) : Prop :=
  page.Requesting ∨ page.Active

/-- What becomes of the session and of the clips. -/
inductive Change (page next : VoiceRecorder) : RecorderEvent → Prop where
  | continues {event : RecorderEvent} :
      page.Continues next → (page.Active → next.Active) →
      (next.Busy → page.Busy) → Change page next event
  | begins {uuid : String} :
      page.phase = .idle → next.uuids = uuid :: page.uuids →
      next.recordingId = uuid → next.clips = page.clips →
      next.delivered = page.delivered → page.SamePreviews next →
      Change page next (.press true uuid)
  | delivers {id : Nat} {failure : Option StartFailure} :
      page.Active → page.Delivers next →
      Change page next (.stopped id failure)
  | removes {index : Nat} :
      next.clips = page.clips.eraseIdx index →
      next.delivered = page.delivered → next.uuids = page.uuids →
      next.session = page.session →
      next.recordingId = page.recordingId → (page.Active → next.Active) →
      (next.Busy → page.Busy) → page.SamePreviews next →
      Change page next (.remove index)
  | leaves {event : RecorderEvent} :
      event = .mount ∨ event = .unmount → next.clips = page.clips →
      next.delivered = page.delivered → next.uuids = page.uuids →
      ¬ next.Busy → next.live = [] →
      next.previews = [] ∨ next.previews = page.previews →
      next.previewing = page.previewing → next.answers = page.answers →
      Change page next event
  | previews {index mount : Nat} {clip : VoiceClip}
      {preview : Option TranscriptionPreview}
      {answer : TranscriptionPreview} :
      page.previewing[index]? = some (mount, clip) →
      next.mounted = page.mounted → next.phase = page.phase →
      next.session = page.session →
      next.recordingId = page.recordingId → next.uuids = page.uuids →
      next.clips = page.clips → next.delivered = page.delivered →
      next.previewing = page.previewing.eraseIdx index →
      next.answers = (clip, answer) :: page.answers →
      next.previews = (previewKey clip, answer) :: page.previews ∨
        next.previews = page.previews →
      Change page next (.previewed index preview)

theorem Continues.change (continues : page.Continues next)
    (phase : next.phase = page.phase) : page.Change next event := by
  have active : next.Active ↔ page.Active := by
    unfold Active
    rw [continues.mounted, phase]
  refine .continues continues active.mpr ?_
  unfold Busy Requesting
  rw [active, continues.mounted, phase]
  exact id

theorem continues_active (active : page.Active) (still : next.Active)
    (continues : page.Continues next) :
    page.Change next event :=
  .continues continues (fun _ => still) fun _ => .inr active

theorem Sound.stopRecording_continues (sound : page.Sound)
    (mounted : page.mounted = true) :
    page.Continues (page.stopRecording browser) ∧
      (page.Active → (page.stopRecording browser).Active) ∧
      ((page.stopRecording browser).Busy → page.Busy) := by
  by_cases phase : page.phase = .recording
  · obtain ⟨before, current, _, same⟩ :=
      sound.stopRecording_eq browser mounted phase
    rw [same]
    exact ⟨⟨rfl, rfl, rfl, rfl, rfl, rfl, rfl, rfl, rfl⟩,
      fun _ => ⟨mounted, .inr rfl⟩, fun _ => .inr ⟨mounted, .inl phase⟩⟩
  · rw [VoiceRecorder.stopRecording, if_pos phase]
    exact ⟨⟨rfl, rfl, rfl, rfl, rfl, rfl, rfl, rfl, rfl⟩, id, id⟩

theorem Sound.stopRecording_change (sound : page.Sound)
    (mounted : page.mounted = true) :
    page.Change (page.stopRecording browser) event := by
  obtain ⟨continues, active, busy⟩ := sound.stopRecording_continues mounted
  exact .continues continues active busy

theorem rotateSegment_change : page.Change page.rotateSegment event := by
  have stays : page.Change page event :=
    Continues.change ⟨rfl, rfl, rfl, rfl, rfl, rfl, rfl, rfl, rfl⟩ rfl
  unfold VoiceRecorder.rotateSegment
  split
  case h_2 => exact stays
  case h_1 =>
    split
    case h_2 => exact stays
    case h_1 =>
      split
      case isFalse => exact stays
      case isTrue =>
        exact .continues ⟨rfl, rfl, rfl, rfl, rfl, rfl, rfl, rfl, rfl⟩ id id

theorem Sound.update_change (sound : page.Sound)
    (mounted : page.mounted = true) (now : ℚ) :
    page.Change (page.update browser now) event := by
  unfold VoiceRecorder.update
  dsimp only
  split
  case isTrue => exact sound.stopRecording_change mounted
  case isFalse =>
    split
    case isTrue => exact rotateSegment_change
    case isFalse =>
      exact .continues ⟨rfl, rfl, rfl, rfl, rfl, rfl, rfl, rfl, rfl⟩ id id

theorem Sound.granted_change (sound : page.Sound)
    (asked : session ∈ page.requests) (now : ℚ)
    (failure : Option StartFailure) :
    page.Change
      (useStream browser
        { page with requests := page.requests.erase session } session now
        failure) event := by
  unfold useStream
  rcases sound.waiting_or_other asked with
    ⟨rfl, requesting⟩ | ⟨other, gone, _⟩
  · have inactive := requesting.not_active
    have current : isCurrent
        { page with requests := page.requests.erase page.session }
        page.session = true :=
      isCurrent_eq_true.mpr ⟨requesting.1, rfl⟩
    rw [if_pos current]
    dsimp only
    -- Whatever is set up before the failure, the session was requested.
    have failed : ∀ held : VoiceRecorder, page.Continues held →
        held.phase = page.phase →
        page.Change (held.startFailed page.session) event := by
      intro held continues phase
      have mounted : held.mounted = true :=
        continues.mounted.trans requesting.1
      rw [startFailed_eq held mounted continues.session]
      exact .continues
        (continues.trans ⟨rfl, rfl, rfl, rfl, rfl, rfl, rfl, rfl, rfl⟩)
        (fun active => absurd active inactive)
        fun _ => .inl requesting
    split
    case isTrue =>
      exact failed _ ⟨rfl, rfl, rfl, rfl, rfl, rfl, rfl, rfl, rfl⟩ rfl
    case isFalse =>
      rcases startSegment_cases browser
          { page with
            requests := page.requests.erase page.session
            granted := page.granted + 1
            live := page.granted :: page.live
            stream := some page.granted
            startedAt := now } rfl
          (isCurrent_eq_true.mpr ⟨requesting.1, rfl⟩) browser.pickMimeType
          failure with
        thrown | ⟨recorder, throws, started, _⟩
      · rw [thrown]
        exact failed _ ⟨rfl, rfl, rfl, rfl, rfl, rfl, rfl, rfl, rfl⟩ rfl
      · rw [started]
        cases throws with
        | true =>
            exact failed _ ⟨rfl, rfl, rfl, rfl, rfl, rfl, rfl, rfl, rfl⟩ rfl
        | false =>
            exact .continues ⟨rfl, rfl, rfl, rfl, rfl, rfl, rfl, rfl, rfl⟩
              (fun active => absurd active inactive)
              fun _ => .inl requesting
  · rw [if_neg (by simpa [isCurrent] using gone)]
    exact Continues.change ⟨rfl, rfl, rfl, rfl, rfl, rfl, rfl, rfl, rfl⟩ rfl

/-- The requests are not what the fields of the session depend on. -/
theorem Sound.denied_change (sound : page.Sound)
    (asked : session ∈ page.requests) :
    page.Change
      (startFailed { page with requests := page.requests.erase session }
        session) event := by
  rcases sound.waiting_or_other asked with
    ⟨rfl, requesting⟩ | ⟨other, gone, unmounted⟩
  · rw [startFailed_eq { page with
      requests := page.requests.erase page.session } requesting.1 rfl]
    exact .continues ⟨rfl, rfl, rfl, rfl, rfl, rfl, rfl, rfl, rfl⟩
      (fun active => absurd active requesting.not_active)
      fun _ => .inl requesting
  · unfold startFailed
    dsimp only
    split
    case isTrue mount =>
      have left : ¬ page.Active := by
        rintro ⟨mounted, _⟩
        rw [unmounted mount] at mounted
        cases mounted
      rw [if_neg (by simpa [isCurrent, stopMedia] using gone)]
      exact .continues ⟨rfl, rfl, rfl, rfl, rfl, rfl, rfl, rfl, rfl⟩
        (fun active => absurd active left) id
    case isFalse =>
      rw [if_neg (by simpa [isCurrent] using gone)]
      exact Continues.change ⟨rfl, rfl, rfl, rfl, rfl, rfl, rfl, rfl, rfl⟩ rfl

/-- The rule for the events of a recorder that has one left to fire. -/
theorem recorderEvent_eq {react : MediaRecorder → VoiceRecorder}
    (taken : page.recorderEvent id react = some next) :
    ∃ recorder, page.recorders[id]? = some recorder ∧
      recorder.ended = false ∧ react recorder = next := by
  unfold recorderEvent at taken
  split at taken
  case h_2 => cases taken
  case h_1 recorder found =>
    split at taken
    case isTrue => cases taken
    case isFalse unended =>
      exact ⟨recorder, found, by simpa using unended, Option.some.inj taken⟩

theorem setRecorder_change : page.Change (page.setRecorder id after) event :=
  .continues ⟨rfl, rfl, rfl, rfl, rfl, rfl, rfl, rfl, rfl⟩
    (fun active => active) fun busy => busy

theorem Sound.ondataavailable (sound : page.Sound)
    (found : page.recorders[id]? = some recorder)
    (unended : recorder.ended = false) (data : List UInt8) :
    (page.ondataavailable id recorder data).Sound ∧
      page.Change (page.ondataavailable id recorder data) event := by
  unfold VoiceRecorder.ondataavailable
  dsimp only
  by_cases own : recorder.session = page.session
  · obtain ⟨before, last, recorded⟩ := sound.active
      (sound.active_of_current found unended own)
    have whole := recorded.whole recorder (List.mem_of_getElem? found) own
    split
    case isTrue =>
      refine ⟨sound.setCurrent found unended own rfl rfl unended ?_
        fun halted => halted, setRecorder_change⟩
      simp [whole]
    case isFalse empty =>
      refine ⟨sound.setCurrent found unended own rfl rfl unended ?_
        fun halted => halted, setRecorder_change⟩
      have nothing : data = [] := by
        by_contra some
        exact empty ⟨some, own⟩
      simp [whole, nothing]
  · rw [if_neg (fun both => own both.2)]
    exact ⟨sound.setOther found rfl own, setRecorder_change⟩

theorem Sound.onerror (sound : page.Sound)
    (found : page.recorders[id]? = some recorder)
    (unended : recorder.ended = false) (recording : Bool)
    (halted : recorder.recording = false → recording = false) :
    let after := { recorder with recording := recording }
    ((page.setRecorder id after).onerror id after).Sound ∧
      page.Change ((page.setRecorder id after).onerror id after) event := by
  intro after
  unfold VoiceRecorder.onerror
  by_cases current : isCurrent (page.setRecorder id after) after.session = true
  · rw [if_pos current]
    have own : recorder.session = page.session :=
      (isCurrent_eq_true.mp current).2
    have active := sound.active_of_current found unended own
    have first := sound.halted found unended own recording halted
    have still := setRecorder_found found after
    have second := first.halted still unended own false fun _ => rfl
    constructor
    · exact second.stopping active (setRecorder_found still _) unended own
        rfl (some .voiceInterrupted)
    · exact continues_active active ⟨active.1, .inr rfl⟩
        ⟨rfl, rfl, rfl, rfl, rfl, rfl, rfl, rfl, rfl⟩
  · rw [if_neg current]
    refine ⟨?_, setRecorder_change⟩
    by_cases own : recorder.session = page.session
    · exact sound.halted found unended own recording halted
    · exact sound.setOther found rfl own

theorem Sound.onstop (sound : page.Sound)
    (found : page.recorders[id]? = some recorder)
    (unended : recorder.ended = false) (failure : Option StartFailure)
    (stopped : onstop browser
      (page.setRecorder id { recorder with recording := false, ended := true })
      id { recorder with recording := false, ended := true } failure =
        next) :
    next.Sound ∧ page.Change next (.stopped id failure) := by
  by_cases own : recorder.session = page.session
  · have active := sound.active_of_current found unended own
    obtain ⟨after, ⟨still, continues, _⟩ | delivers⟩ :=
      sound.onstop_current found unended own browser failure stopped
    · exact ⟨after, continues_active active still continues⟩
    · exact ⟨after, .delivers active delivers⟩
  · -- A recorder that the component has given up.
    generalize ending : ({ recorder with recording := false, ended := true } :
      MediaRecorder) = last at stopped
    have same : last.session = recorder.session := by rw [← ending]
    have gone : ¬ isCurrent (page.setRecorder id last) last.session = true := by
      rw [isCurrent_eq_true, same]
      exact fun both => own both.2
    have after := sound.setOther found same own
    have kept : (page.setRecorder id last).keepClip id last = next := by
      unfold VoiceRecorder.onstop at stopped
      dsimp only at stopped
      have late : ¬ isCurrent ((page.setRecorder id last).keepClip id last)
          last.session = true := gone
      rwa [if_neg late] at stopped
    have pending : ((page.setRecorder id last).keepClip id
        last).pendingClips = page.pendingClips := by
      unfold VoiceRecorder.keepClip
      dsimp only
      rw [if_neg (fun both => gone both.1)]
      rfl
    have held : page.Active → ((page.setRecorder id last).keepClip id
        last).recorder = page.recorder := by
      intro active
      obtain ⟨before, current, recorded⟩ := sound.active active
      have other : page.recorder ≠ some id := by
        intro held
        rw [recorded.recorder] at held
        obtain rfl := Option.some.inj held
        rw [recorded.found] at found
        obtain rfl := Option.some.inj found
        exact own recorded.session
      unfold VoiceRecorder.keepClip
      dsimp only
      exact if_neg other
    have unchanged : (page.setRecorder id last).SameRecording
        ((page.setRecorder id last).keepClip id last) :=
      ⟨rfl, rfl, rfl, pending, rfl, rfl, rfl, rfl⟩
    subst kept
    constructor
    · exact after.of_same unchanged held rfl rfl (List.Sublist.refl _)
    · exact .continues ⟨rfl, rfl, rfl, rfl, rfl, rfl, rfl, rfl, rfl⟩
        (fun active => active) fun busy => busy

theorem unmount_clips (page : VoiceRecorder) :
    page.unmount.clips = page.clips ∧
      page.unmount.delivered = page.delivered ∧
      page.unmount.uuids = page.uuids ∧
      page.SamePreviews page.unmount := by
  unfold VoiceRecorder.unmount
  dsimp only
  split
  case h_1 => split <;> exact ⟨rfl, rfl, rfl, ⟨rfl, rfl, rfl⟩⟩
  case h_2 => exact ⟨rfl, rfl, rfl, ⟨rfl, rfl, rfl⟩⟩

theorem not_busy_of_idle (phase : page.phase = .idle) : ¬ page.Busy := by
  rintro (⟨_, waiting⟩ | ⟨_, recording | stopping⟩)
  · rw [phase] at waiting
    cases waiting
  · rw [phase] at recording
    cases recording
  · rw [phase] at stopping
    cases stopping

theorem Sound.press (sound : page.Sound) (mounted : page.mounted = true)
    {supported : Bool} {uuid : String}
    (taken : page.press browser supported uuid = some next) :
    next.Sound ∧ page.Change next (.press supported uuid) := by
  unfold VoiceRecorder.press at taken
  split at taken
  case h_1 =>
    cases taken
    exact ⟨sound.stopRecording mounted, sound.stopRecording_change mounted⟩
  case h_2 phase =>
    cases taken
    refine ⟨sound.startRecording mounted phase supported uuid, ?_⟩
    unfold VoiceRecorder.startRecording
    cases supported with
    | true => exact .begins phase rfl rfl rfl rfl ⟨rfl, rfl, rfl⟩
    | false =>
        exact .continues ⟨rfl, rfl, rfl, rfl, rfl, rfl, rfl, rfl, rfl⟩
          (fun active => active) fun busy => busy
  case h_3 => cases taken

/-- Everything an event can do, from a state that satisfies the invariant. -/
theorem Sound.step (sound : page.Sound)
    (taken : VoiceRecorder.step browser page event = some next) :
    next.Sound ∧ page.Change next event := by
  cases event with
  | mount =>
      simp only [VoiceRecorder.step] at taken
      split at taken
      case isTrue => cases taken
      case isFalse unmounted =>
        cases taken
        have left : ¬ page.Active := fun active => unmounted active.1
        exact ⟨sound.mount (by simpa using unmounted),
          .leaves (.inl rfl) rfl rfl rfl (not_busy_of_idle rfl)
            (sound.live_of_inactive left) (.inl rfl) rfl rfl⟩
  | unmount =>
      simp only [VoiceRecorder.step] at taken
      split at taken
      case isFalse => cases taken
      case isTrue =>
        cases taken
        have after := sound.unmount
        have left : page.unmount.mounted = false := rfl
        have inactive : ¬ page.unmount.Active := fun active =>
          Bool.false_ne_true (left.symm.trans active.1)
        obtain ⟨clips, delivered, uuids, asked⟩ := unmount_clips page
        refine ⟨after, .leaves (.inr rfl) clips delivered uuids ?_
          (after.live_of_inactive inactive) (.inr asked.previews)
          asked.previewing asked.answers⟩
        rintro (requesting | active)
        · exact Bool.false_ne_true (left.symm.trans requesting.1)
        · exact inactive active
  | press supported uuid =>
      simp only [VoiceRecorder.step] at taken
      split at taken
      case isFalse => cases taken
      case isTrue mounted => exact sound.press mounted taken
  | granted session now failure =>
      simp only [VoiceRecorder.step] at taken
      split at taken
      case isFalse => cases taken
      case isTrue asked =>
        cases taken
        exact ⟨sound.granted asked now failure,
          sound.granted_change asked now failure⟩
  | denied session =>
      simp only [VoiceRecorder.step] at taken
      split at taken
      case isFalse => cases taken
      case isTrue asked =>
        cases taken
        exact ⟨sound.denied asked, sound.denied_change asked⟩
  | dataAvailable id data =>
      obtain ⟨recorder, found, unended, rfl⟩ := recorderEvent_eq taken
      exact sound.ondataavailable found unended data
  | failed id inactive =>
      obtain ⟨recorder, found, unended, rfl⟩ := recorderEvent_eq taken
      refine sound.onerror found unended (recorder.recording && !inactive) ?_
      intro stopped
      rw [stopped, Bool.false_and]
  | stopped id failure =>
      obtain ⟨recorder, found, unended, ended⟩ := recorderEvent_eq taken
      exact sound.onstop found unended failure ended
  | trackEnded stream =>
      simp only [VoiceRecorder.step] at taken
      split at taken
      case isFalse => cases taken
      case isTrue on =>
        cases taken
        have silenced : Sound
            { page with live := page.live.filter (· ≠ stream) } :=
          sound.of_same ⟨rfl, rfl, rfl, rfl, rfl, rfl, rfl, rfl⟩
            (fun _ => rfl) rfl rfl List.filter_sublist
        have active : page.Active := by
          rw [← sound.stream]
          rcases sound.live with silent | ⟨id, held, _⟩
          · rw [silent] at on
            cases on
          · rw [held]
            rfl
        have heard : page.Continues
            { page with live := page.live.filter (· ≠ stream) } :=
          ⟨rfl, rfl, rfl, rfl, rfl, rfl, rfl, rfl, rfl⟩
        obtain ⟨continues, still, busy⟩ :=
          silenced.stopRecording_continues active.1
        exact ⟨silenced.stopRecording active.1,
          .continues (heard.trans continues) still busy⟩
  | frame now =>
      simp only [VoiceRecorder.step] at taken
      split at taken
      case isFalse => cases taken
      case isTrue running =>
        cases taken
        exact ⟨sound.update running.1 now, sound.update_change running.1 now⟩
  | remove index =>
      simp only [VoiceRecorder.step] at taken
      split at taken
      case isFalse => cases taken
      case isTrue =>
        cases taken
        exact ⟨sound.of_same ⟨rfl, rfl, rfl, rfl, rfl, rfl, rfl, rfl⟩
            (fun _ => rfl) rfl rfl (List.Sublist.refl _),
          .removes rfl rfl rfl rfl rfl (fun active => active)
            (fun busy => busy) ⟨rfl, rfl, rfl⟩⟩
  | previewed index preview =>
      simp only [VoiceRecorder.step] at taken
      split at taken
      case h_2 => cases taken
      case h_1 mount clip found =>
        cases taken
        refine ⟨sound.of_same ⟨rfl, rfl, rfl, rfl, rfl, rfl, rfl, rfl⟩
            (fun _ => rfl) rfl rfl (List.Sublist.refl _),
          .previews found rfl rfl rfl rfl rfl rfl rfl rfl rfl ?_⟩
        unfold setPreview
        dsimp only
        split
        case isTrue => exact .inl rfl
        case isFalse => exact .inr rfl

end VoiceRecorder

end JanSetu.Frontend
