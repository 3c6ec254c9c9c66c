import JanSetu.Frontend.Recordings
import JanSetu.Library.Numerals
import Mathlib.Data.List.Nodup

/-!
# The clips of a complaint

What holds in every run of the recorder: when the microphone is on, what
becomes of a recording, which clips the parent has and whose previews it shows.
-/

namespace JanSetu.Frontend

def VoiceClip.identity (clip : VoiceClip) : String × Nat :=
  (clip.recordingId, clip.segmentIndex)

theorem identity_of_previewKey {clip other : VoiceClip}
    (same : previewKey clip = previewKey other) :
    clip.identity = other.identity :=
  Prod.ext_iff.mpr (Numerals.numbered_inj same)

namespace VoiceRecorder

variable {browser : Browser} {page next final : VoiceRecorder}
  {event : RecorderEvent} {events : List RecorderEvent}

theorem fresh_sound : fresh.Sound := by
  have inactive : ¬ fresh.Active := fun active => Bool.false_ne_true active.1
  constructor
  · exact List.nodup_nil
  · intro session member
    cases member
  · refine iff_of_false List.not_mem_nil ?_
    exact fun requesting => Bool.false_ne_true requesting.1
  · intro mounted
    cases mounted
  · exact .inl rfl
  · exact iff_of_false Bool.false_ne_true inactive
  · intro recorder member
    cases member
  · intro _ recorder member
    cases member
  · intro _
    rfl
  · intro _ recorder member
    cases member
  · intro _
    rfl
  · intro active
    exact absurd active inactive

theorem reachable_of_fresh
    (reached : (system browser).ReachableWhen FreshIds page) :
    (system browser).Reachable page :=
  reached.mono fun _ _ _ _ => trivial

theorem sound_of_reachable (reached : (system browser).Reachable page) :
    page.Sound := by
  apply reached.invariant
  · intro start initial
    rw [show start = fresh from initial]
    exact fresh_sound
  · intro page event next _ sound _ taken
    exact (sound.step taken).1

/-! ## The microphone -/

/-- The microphone is on for at most one stream, and only while the mounted
component shows that it records or saves. -/
theorem microphone_shown (reached : (system browser).Reachable page) :
    page.live = [] ∨
      ∃ id, page.live = [id] ∧ page.stream = some id ∧
        page.mounted = true ∧
        (page.phase = .recording ∨ page.phase = .stopping) := by
  have sound := sound_of_reachable reached
  rcases sound.live with silent | ⟨id, held, single⟩
  · exact .inl silent
  · have active : page.Active := by
      rw [← sound.stream, held]
      rfl
    exact .inr ⟨id, single, held, active.1, active.2⟩

/-- A browser that records in its own default type. -/
def plainBrowser : Browser :=
  { isTypeSupported := fun _ => false
    mimeTypeOf := fun _ => "audio/webm"
    previewEnabled := true }

/-- The component is mounted and its button pressed, and the microphone is
given. -/
def startsToRecord : List RecorderEvent :=
  [.mount, .press true "a", .granted ⟨1, 1⟩ 0 none]

def recorded (segmentNumber : Nat) (ended : Bool) (data : List UInt8) :
    MediaRecorder :=
  { session := ⟨1, 1⟩
    segmentNumber := segmentNumber
    requestedType := none
    mimeType := "audio/webm"
    recording := !ended
    ended := ended
    chunks := [data]
    emitted := [data] }

def recordingPage : VoiceRecorder :=
  { fresh with
    mounted := true
    session := ⟨1, 1⟩
    phase := .recording
    stream := some 0
    recorder := some 0
    recordingId := "a"
    granted := 1
    live := [0]
    recorders :=
      [{ recorded 1 false [] with chunks := [], emitted := [] }]
    uuids := ["a"] }

theorem recordingPage_reached :
    (system plainBrowser).ReachableWhen FreshIds recordingPage :=
  ⟨fresh, startsToRecord, rfl,
    Transition.System.runWhen_of_allows (by decide +kernel) rfl⟩

theorem microphone_shown_recording :
    recordingPage.live = [] ∨
      ∃ id, recordingPage.live = [id] ∧ recordingPage.stream = some id ∧
        recordingPage.mounted = true ∧
        (recordingPage.phase = .recording ∨
          recordingPage.phase = .stopping) :=
  microphone_shown (reachable_of_fresh recordingPage_reached)

/-! ## What becomes of a recording -/

/-- Everything that can become of a recording in one step. -/
theorem recording_step (sound : page.Sound) (active : page.Active)
    (taken : step browser page event = some next) :
    (next.Active ∧ next.session = page.session ∧
        next.recordingId = page.recordingId ∧
        next.delivered = page.delivered) ∨
      event = .unmount ∨
      (∃ id failure, event = .stopped id failure) ∧ page.Delivers next := by
  cases (sound.step taken).2 with
  | continues continues still _ =>
      exact .inl ⟨still active, continues.session, continues.recordingId,
        continues.delivered⟩
  | begins idle _ _ _ _ _ =>
      exact absurd (.inr active) (not_busy_of_idle idle)
  | delivers _ delivers => exact .inr (.inr ⟨⟨_, _, rfl⟩, delivers⟩)
  | removes _ delivered _ session recordingId still _ _ =>
      exact .inl ⟨still active, session, recordingId, delivered⟩
  | leaves which _ _ _ _ _ _ _ _ =>
      rcases which with rfl | rfl
      · simp only [VoiceRecorder.step] at taken
        rw [if_pos active.1] at taken
        cases taken
      · exact .inr (.inl rfl)
  | previews _ mounted phase session recordingId _ _ delivered _ _ _ =>
      refine .inl ⟨?_, session, recordingId, delivered⟩
      unfold Active
      rw [mounted, phase]
      exact active

/-! ## The clips of the parent and their previews -/

/-- What is known of the clips in every reachable state. -/
structure Kept (page : VoiceRecorder) : Prop where
  identities : (page.delivered.map (·.identity)).Nodup
  drawn : ∀ clip ∈ page.delivered, clip.recordingId ∈ page.uuids
  segments : ∀ clip ∈ page.delivered, clip.segmentIndex ≤ 1
  clips : page.clips.Sublist page.delivered
  own : page.Busy → page.recordingId ∈ page.uuids ∧
    ∀ clip ∈ page.delivered, clip.recordingId ≠ page.recordingId
  asked : ∀ entry ∈ page.previewing, entry.2 ∈ page.delivered
  answered : ∀ entry ∈ page.answers, entry.1 ∈ page.delivered
  previews : ∀ entry ∈ page.previews, ∃ clip,
    entry.1 = previewKey clip ∧ (clip, entry.2) ∈ page.answers

theorem fresh_kept : fresh.Kept := by
  constructor
  · exact List.nodup_nil
  · intro clip member
    cases member
  · intro clip member
    cases member
  · exact List.Sublist.refl _
  · intro busy
    exact absurd busy (not_busy_of_idle rfl)
  · intro entry member
    cases member
  · intro entry member
    cases member
  · intro entry member
    cases member

/-- A step that leaves the clips that were given and the previews alone. -/
theorem Kept.of_same (kept : page.Kept)
    (clips : next.clips.Sublist page.clips)
    (delivered : next.delivered = page.delivered)
    (uuids : ∀ uuid ∈ page.uuids, uuid ∈ next.uuids)
    (own : next.Busy → next.recordingId ∈ next.uuids ∧
      ∀ clip ∈ page.delivered, clip.recordingId ≠ next.recordingId)
    (previews : next.previews = [] ∨ next.previews = page.previews)
    (previewing : next.previewing = page.previewing)
    (answers : next.answers = page.answers) : next.Kept := by
  constructor
  · rw [delivered]
    exact kept.identities
  · rw [delivered]
    exact fun clip member => uuids _ (kept.drawn clip member)
  · rw [delivered]
    exact kept.segments
  · rw [delivered]
    exact clips.trans kept.clips
  · rw [delivered]
    exact own
  · rw [delivered, previewing]
    exact kept.asked
  · rw [delivered, answers]
    exact kept.answered
  · rw [answers]
    intro entry member
    rcases previews with none | same
    · rw [none] at member
      cases member
    · rw [same] at member
      exact kept.previews entry member

/-- The clips of one session are told apart by their index. -/
theorem identities_of_indices {recordingId : String} {clips : List VoiceClip}
    (named : ∀ clip ∈ clips, clip.recordingId = recordingId)
    (indices : clips.map (·.segmentIndex) = List.range clips.length) :
    (clips.map (·.identity)).Nodup := by
  have distinct : (clips.map (·.segmentIndex)).Nodup := by
    rw [indices]
    exact List.nodup_range
  have pairs : clips.map (·.identity) =
      (clips.map (·.segmentIndex)).map fun index => (recordingId, index) := by
    rw [List.map_map]
    apply List.map_congr_left
    intro clip member
    simp [VoiceClip.identity, named clip member]
  rw [pairs]
  apply distinct.map
  intro first second same
  exact (Prod.mk.inj same).2

theorem recordingId_of_clipsOf {recordingId : String}
    {recorders : List MediaRecorder} {clip : VoiceClip}
    (member : clip ∈ clipsOf recordingId recorders) :
    clip.recordingId = recordingId := by
  obtain ⟨recorder, _, rfl⟩ := List.mem_map.mp member
  rfl

theorem length_clipsOf_le (recordingId : String)
    (recorders : List MediaRecorder) :
    (clipsOf recordingId recorders).length ≤ recorders.length := by
  unfold clipsOf
  rw [List.length_map]
  exact List.length_filter_le _ _

theorem Kept.delivers (kept : page.Kept) (active : page.Active)
    (delivers : page.Delivers next) : next.Kept := by
  obtain ⟨drawn, unused⟩ := kept.own (.inr active)
  have few := (length_clipsOf_le page.recordingId
    (next.ofSession page.session)).trans delivers.few
  have indices := delivers.indices
  have given := delivers.delivered
  have shown := delivers.clips
  have named : ∀ clip ∈ clipsOf page.recordingId
      (next.ofSession page.session), clip.recordingId = page.recordingId :=
    fun clip member => recordingId_of_clipsOf member
  generalize clipsOf page.recordingId (next.ofSession page.session) = new
    at few indices given shown named
  constructor
  · rw [given, List.map_append, List.nodup_append]
    refine ⟨kept.identities, identities_of_indices named indices, ?_⟩
    intro old earlier fresh later same
    obtain ⟨clip, member, rfl⟩ := List.mem_map.mp earlier
    obtain ⟨other, added, rfl⟩ := List.mem_map.mp later
    apply unused clip member
    rw [← named other added]
    exact (Prod.mk.inj same).1
  · rw [given, delivers.uuids]
    intro clip member
    rcases List.mem_append.mp member with old | added
    · exact kept.drawn clip old
    · rw [named clip added]
      exact drawn
  · rw [given]
    intro clip member
    rcases List.mem_append.mp member with old | added
    · exact kept.segments clip old
    · have inside : clip.segmentIndex ∈ new.map (·.segmentIndex) :=
        List.mem_map_of_mem added
      rw [indices, List.mem_range] at inside
      omega
  · rw [given, shown]
    exact kept.clips.append_right new
  · intro busy
    exact absurd busy (not_busy_of_idle delivers.phase)
  · intro entry member
    rcases delivers.previewing entry member with old | added
    · rw [given]
      exact List.mem_append_left _ (kept.asked entry old)
    · exact added
  · rw [delivers.answers, given]
    exact fun entry member =>
      List.mem_append_left _ (kept.answered entry member)
  · rw [delivers.previews, delivers.answers]
    exact kept.previews

/-- The answer to a preview of a clip that the parent was given. -/
theorem Kept.previewed {index mount : Nat} {clip : VoiceClip}
    {answer : TranscriptionPreview} (kept : page.Kept)
    (found : page.previewing[index]? = some (mount, clip))
    (busy : next.Busy → page.Busy)
    (recordingId : next.recordingId = page.recordingId)
    (uuids : next.uuids = page.uuids) (clips : next.clips = page.clips)
    (delivered : next.delivered = page.delivered)
    (previewing : next.previewing = page.previewing.eraseIdx index)
    (answers : next.answers = (clip, answer) :: page.answers)
    (previews : next.previews = (previewKey clip, answer) :: page.previews ∨
      next.previews = page.previews) : next.Kept := by
  constructor
  · rw [delivered]
    exact kept.identities
  · rw [delivered, uuids]
    exact kept.drawn
  · rw [delivered]
    exact kept.segments
  · rw [delivered, clips]
    exact kept.clips
  · rw [delivered, recordingId, uuids]
    exact fun working => kept.own (busy working)
  · rw [delivered, previewing]
    exact fun entry member =>
      kept.asked entry (List.mem_of_mem_eraseIdx member)
  · rw [delivered, answers]
    intro entry member
    rcases List.mem_cons.mp member with rfl | old
    · exact kept.asked (mount, clip) (List.mem_of_getElem? found)
    · exact kept.answered entry old
  · have earlier : ∀ entry ∈ page.previews, ∃ clip,
        entry.1 = previewKey clip ∧ (clip, entry.2) ∈ next.answers := by
      rw [answers]
      intro entry member
      obtain ⟨clip, key, given⟩ := kept.previews entry member
      exact ⟨clip, key, List.mem_cons_of_mem _ given⟩
    rcases previews with shown | same
    · rw [shown]
      intro entry member
      rcases List.mem_cons.mp member with rfl | old
      · refine ⟨clip, rfl, ?_⟩
        rw [answers]
        exact List.mem_cons_self
      · exact earlier entry old
    · rw [same]
      exact earlier

theorem unused_of_fresh {uuid : String}
    (fresh : page.FreshIds (.press true uuid)) (idle : page.phase = .idle) :
    uuid ∉ page.uuids :=
  fun member => fresh uuid member (if_pos idle)

theorem Kept.change (kept : page.Kept) (fresh : page.FreshIds event)
    (change : page.Change next event) : next.Kept := by
  cases change with
  | continues continues _ busy =>
      refine kept.of_same ?_ continues.delivered ?_ ?_
        (.inr continues.previews) continues.previewing continues.answers
      · rw [continues.clips]
      · rw [continues.uuids]
        exact fun _ member => member
      · rw [continues.recordingId, continues.uuids]
        exact fun working => kept.own (busy working)
  | begins idle uuids recordingId clips delivered previews =>
      refine kept.of_same ?_ delivered ?_ ?_ (.inr previews.previews)
        previews.previewing previews.answers
      · rw [clips]
      · rw [uuids]
        exact fun _ member => List.mem_cons_of_mem _ member
      · rw [recordingId, uuids]
        intro _
        refine ⟨List.mem_cons_self, fun clip member same => ?_⟩
        exact unused_of_fresh fresh idle (same ▸ kept.drawn clip member)
  | delivers active delivers => exact kept.delivers active delivers
  | removes clips delivered uuids _ recordingId _ busy previews =>
      refine kept.of_same ?_ delivered ?_ ?_ (.inr previews.previews)
        previews.previewing previews.answers
      · rw [clips]
        exact List.eraseIdx_sublist _ _
      · rw [uuids]
        exact fun _ member => member
      · rw [recordingId, uuids]
        exact fun working => kept.own (busy working)
  | leaves _ clips delivered uuids idle _ previews previewing answers =>
      refine kept.of_same ?_ delivered ?_ (fun busy => absurd busy idle)
        previews previewing answers
      · rw [clips]
      · rw [uuids]
        exact fun _ member => member
  | previews found mounted phase _ recordingId uuids clips delivered
      previewing answers shown =>
      refine kept.previewed found ?_ recordingId uuids clips delivered
        previewing answers shown
      unfold Busy Requesting Active
      rw [mounted, phase]
      exact id

theorem kept_of_reachable
    (reached : (system browser).ReachableWhen FreshIds page) : page.Kept := by
  apply reached.invariant
  · intro start initial
    rw [show start = fresh from initial]
    exact fresh_kept
  · intro page event next reached kept fresh taken
    have sound := sound_of_reachable (reachable_of_fresh reached)
    exact kept.change fresh (sound.step taken).2

/-! ## The one delivery of a recording -/

/-- The component stays mounted, and no id is drawn twice. -/
def Stays (page : VoiceRecorder) (event : RecorderEvent) : Prop :=
  event ≠ .unmount ∧ page.FreshIds event

instance (page : VoiceRecorder) (event : RecorderEvent) :
    Decidable (page.Stays event) :=
  inferInstanceAs (Decidable (_ ∧ _))

/-- The clips that the parent was given of a recording. -/
def given (page : VoiceRecorder) (recordingId : String) : List VoiceClip :=
  page.delivered.filter (·.recordingId = recordingId)

theorem Kept.given_of_busy (kept : page.Kept) (busy : page.Busy) :
    page.given page.recordingId = [] := by
  unfold given
  rw [List.filter_eq_nil_iff]
  intro clip member
  simpa using (kept.own busy).2 clip member

/-- A recording of which the parent has been given these clips, and that is
over. -/
structure Over (page : VoiceRecorder) (recordingId : String)
    (clips : List VoiceClip) : Prop where
  drawn : recordingId ∈ page.uuids
  other : page.Busy → page.recordingId ≠ recordingId
  given : page.given recordingId = clips

theorem given_of_delivered {recordingId : String}
    (delivered : next.delivered = page.delivered) :
    next.given recordingId = page.given recordingId := by
  unfold given
  rw [delivered]

theorem given_append {recordingId : String} {clips : List VoiceClip}
    (delivered : next.delivered = page.delivered ++ clips) :
    next.given recordingId =
      page.given recordingId ++ clips.filter (·.recordingId = recordingId) := by
  unfold given
  rw [delivered, List.filter_append]

theorem filter_clipsOf_self (recordingId : String)
    (recorders : List MediaRecorder) :
    (clipsOf recordingId recorders).filter (·.recordingId = recordingId) =
      clipsOf recordingId recorders := by
  rw [List.filter_eq_self]
  intro clip member
  simpa using recordingId_of_clipsOf member

theorem filter_clipsOf_of_ne {recordingId other : String}
    (unlike : recordingId ≠ other) (recorders : List MediaRecorder) :
    (clipsOf recordingId recorders).filter (·.recordingId = other) = [] := by
  rw [List.filter_eq_nil_iff]
  intro clip member
  rw [recordingId_of_clipsOf member]
  simpa using unlike

/-- The delivery of a recording gives the parent all its clips. -/
theorem Kept.over (kept : page.Kept) (active : page.Active)
    (delivers : page.Delivers next) :
    next.Over page.recordingId
      (clipsOf page.recordingId (next.ofSession page.session)) := by
  constructor
  · rw [delivers.uuids]
    exact (kept.own (.inr active)).1
  · intro busy
    exact absurd busy (not_busy_of_idle delivers.phase)
  · rw [given_append delivers.delivered, kept.given_of_busy (.inr active),
      filter_clipsOf_self, List.nil_append]

/-- Nothing more is given of a recording that is over. -/
theorem Over.change {recordingId : String} {clips : List VoiceClip}
    (ended : page.Over recordingId clips) (fresh : page.FreshIds event)
    (change : page.Change next event) : next.Over recordingId clips := by
  cases change with
  | continues continues _ busy =>
      constructor
      · rw [continues.uuids]
        exact ended.drawn
      · rw [continues.recordingId]
        exact fun working => ended.other (busy working)
      · rw [given_of_delivered continues.delivered]
        exact ended.given
  | begins idle uuids named _ delivered _ =>
      constructor
      · rw [uuids]
        exact List.mem_cons_of_mem _ ended.drawn
      · rw [named]
        rintro _ rfl
        exact unused_of_fresh fresh idle ended.drawn
      · rw [given_of_delivered delivered]
        exact ended.given
  | delivers active delivers =>
      constructor
      · rw [delivers.uuids]
        exact ended.drawn
      · intro busy
        exact absurd busy (not_busy_of_idle delivers.phase)
      · rw [given_append delivers.delivered,
          filter_clipsOf_of_ne (ended.other (.inr active)), List.append_nil]
        exact ended.given
  | removes _ delivered uuids _ named _ busy _ =>
      constructor
      · rw [uuids]
        exact ended.drawn
      · rw [named]
        exact fun working => ended.other (busy working)
      · rw [given_of_delivered delivered]
        exact ended.given
  | leaves _ _ delivered uuids idle _ _ _ _ =>
      constructor
      · rw [uuids]
        exact ended.drawn
      · exact fun busy => absurd busy idle
      · rw [given_of_delivered delivered]
        exact ended.given
  | previews _ mounted phase _ named uuids _ delivered _ _ _ =>
      have busy : next.Busy ↔ page.Busy := by
        unfold Busy Requesting Active
        rw [mounted, phase]
      constructor
      · rw [uuids]
        exact ended.drawn
      · rw [named]
        exact fun working => ended.other (busy.mp working)
      · rw [given_of_delivered delivered]
        exact ended.given

theorem Over.run {recordingId : String} {clips : List VoiceClip}
    (ended : page.Over recordingId clips) (sound : page.Sound)
    (runs : (system browser).RunWhen Stays page events final) :
    final.Over recordingId clips := by
  have both : final.Sound ∧ final.Over recordingId clips := by
    refine runs.preserves
      (fun page => page.Sound ∧ page.Over recordingId clips) ?_ ⟨sound, ended⟩
    rintro page event next ⟨sound, ended⟩ stays taken
    obtain ⟨after, change⟩ := sound.step taken
    exact ⟨after, ended.change stays.2 change⟩
  exact both.2

/-- The recording of the session goes on and the parent has no clip of it, or
it ended at one step of the run, which gave the parent everything that it had
recorded, and nothing of it was given before that or has been since. -/
inductive Outcome (browser : Browser) (page final : VoiceRecorder) : Prop where
  | records :
      final.Active → final.session = page.session →
      final.recordingId = page.recordingId →
      final.delivered = page.delivered →
      final.given page.recordingId = [] → Outcome browser page final
  | delivered {last after : VoiceRecorder} {before rest : List RecorderEvent}
      {id : Nat} {failure : Option StartFailure} :
      (system browser).RunWhen Stays page before last →
      last.session = page.session → last.recordingId = page.recordingId →
      last.delivered = page.delivered →
      last.given page.recordingId = [] →
      (system browser).step last (.stopped id failure) = some after →
      last.Delivers after →
      (system browser).RunWhen Stays after rest final →
      final.given page.recordingId =
        clipsOf page.recordingId (after.ofSession page.session) →
      Outcome browser page final

/-- The same outcome for the state before a step that goes on recording. -/
theorem Outcome.before (outcome : Outcome browser next final)
    (stays : page.Stays event)
    (taken : (system browser).step page event = some next)
    (session : next.session = page.session)
    (recordingId : next.recordingId = page.recordingId)
    (delivered : next.delivered = page.delivered) :
    Outcome browser page final := by
  cases outcome with
  | records active after identity same nothing =>
      rw [recordingId] at nothing
      exact .records active (after.trans session)
        (identity.trans recordingId) (same.trans delivered) nothing
  | delivered before after identity same nothing stopped delivers rest once =>
      rw [recordingId] at nothing
      rw [recordingId, session] at once
      exact .delivered (.cons stays taken before) (after.trans session)
        (identity.trans recordingId) (same.trans delivered) nothing stopped
        delivers rest once

theorem recording_delivered
    (reached : (system browser).ReachableWhen FreshIds page)
    (active : page.Active)
    (runs : (system browser).RunWhen Stays page events final) :
    Outcome browser page final := by
  induction runs with
  | nil page =>
      exact .records active rfl rfl rfl
        ((kept_of_reachable reached).given_of_busy (.inr active))
  | @cons page next final event events stays taken rest induction =>
      have sound := sound_of_reachable (reachable_of_fresh reached)
      have kept := kept_of_reachable reached
      have after : next.Sound := (sound.step taken).1
      obtain ⟨still, session, recordingId, delivered⟩ | left |
        ⟨⟨id, failure, rfl⟩, delivers⟩ := recording_step sound active taken
      · exact (induction (reached.next stays.2 taken) still).before stays
          taken session recordingId delivered
      · exact absurd left stays.1
      · have ended := (kept.over active delivers).run after rest
        exact .delivered (.nil page) rfl rfl rfl
          (kept.given_of_busy (.inr active)) taken delivers rest ended.given

/-- A recording of two segments, up to the end of the second one. -/
def recordsTwice : List RecorderEvent :=
  [.dataAvailable 0 [1], .frame 30000, .stopped 0 none,
    .dataAvailable 1 [2], .press true "b", .stopped 1 none]

def voiceNote (segmentIndex : Nat) (name : String) (data : List UInt8) :
    VoiceClip :=
  { file := { name := name, type := "audio/webm", data := data }
    recordingId := "a"
    segmentIndex := segmentIndex }

def savedPage : VoiceRecorder :=
  { recordingPage with
    phase := .idle
    stream := none
    recorder := none
    splitStarted := true
    live := []
    recorders := [recorded 1 true [1], recorded 2 true [2]]
    clips :=
      [voiceNote 0 "voice-note-1-1.webm" [1],
        voiceNote 1 "voice-note-1-2.webm" [2]]
    previewing :=
      [(1, voiceNote 0 "voice-note-1-1.webm" [1]),
        (1, voiceNote 1 "voice-note-1-2.webm" [2])]
    delivered :=
      [voiceNote 0 "voice-note-1-1.webm" [1],
        voiceNote 1 "voice-note-1-2.webm" [2]] }

theorem savedPage_runs :
    (system plainBrowser).RunWhen Stays recordingPage recordsTwice
      savedPage := by
  have ran : (system plainBrowser).run recordingPage recordsTwice =
      some savedPage := by
    decide +kernel
  exact Transition.System.runWhen_of_allows (by decide +kernel) ran

theorem recording_delivered_twice :
    Outcome plainBrowser recordingPage savedPage :=
  recording_delivered recordingPage_reached ⟨rfl, .inl rfl⟩ savedPage_runs

/-! ## What the parent attaches and shows -/

/-- No two clips of a complaint are of the same segment of a recording, and
each was given to the parent by the recorder. -/
theorem clips_told_apart
    (reached : (system browser).ReachableWhen FreshIds page) :
    (page.clips.map (·.identity)).Nodup ∧
      page.clips.Sublist page.delivered ∧
      ∀ clip ∈ page.clips,
        clip.recordingId ∈ page.uuids ∧ clip.segmentIndex ≤ 1 := by
  have kept := kept_of_reachable reached
  refine ⟨kept.identities.sublist (kept.clips.map _), kept.clips, ?_⟩
  intro clip member
  have given := kept.clips.subset member
  exact ⟨kept.drawn clip given, kept.segments clip given⟩

/-- The preview that is shown with a clip is an answer for that clip. -/
theorem preview_of_clip
    (reached : (system browser).ReachableWhen FreshIds page)
    (clip : VoiceClip) (attached : clip ∈ page.clips)
    (preview : TranscriptionPreview)
    (shown : page.previews.lookup (previewKey clip) = some preview) :
    (clip, preview) ∈ page.answers := by
  have kept := kept_of_reachable reached
  obtain ⟨newer, older, entries, _⟩ := List.lookup_eq_some_iff.mp shown
  have entry : (previewKey clip, preview) ∈ page.previews := by
    rw [entries]
    exact List.mem_append_right _ List.mem_cons_self
  obtain ⟨other, key, answered⟩ := kept.previews _ entry
  have same : clip.identity = other.identity := identity_of_previewKey key
  have one : clip = other :=
    List.inj_on_of_nodup_map kept.identities (kept.clips.subset attached)
      (kept.answered _ answered) same
  rw [one]
  exact answered

def previewOf (text : String) : TranscriptionPreview :=
  { text := some text, language := some "hi", status := .final }

/-- The previews of both clips are answered, the second one first. -/
def previewedPage : VoiceRecorder :=
  { savedPage with
    previews := [("a:0", previewOf "one"), ("a:1", previewOf "two")]
    previewing := []
    answers :=
      [(voiceNote 0 "voice-note-1-1.webm" [1], previewOf "one"),
        (voiceNote 1 "voice-note-1-2.webm" [2], previewOf "two")] }

theorem previewedPage_reached :
    (system plainBrowser).ReachableWhen FreshIds previewedPage := by
  have ran : (system plainBrowser).run savedPage
      [.previewed 1 (some (previewOf "two")),
        .previewed 0 (some (previewOf "one"))] = some previewedPage := by
    decide +kernel
  have saved : (system plainBrowser).ReachableWhen FreshIds savedPage :=
    recordingPage_reached.run (savedPage_runs.mono fun _ _ stays => stays.2)
  exact saved.run
    (Transition.System.runWhen_of_allows (by decide +kernel) ran)

theorem clips_told_apart_two :
    (previewedPage.clips.map (·.identity)).Nodup ∧
      previewedPage.clips.Sublist previewedPage.delivered ∧
      ∀ clip ∈ previewedPage.clips,
        clip.recordingId ∈ previewedPage.uuids ∧ clip.segmentIndex ≤ 1 :=
  clips_told_apart previewedPage_reached

theorem preview_of_clip_second :
    (voiceNote 1 "voice-note-1-2.webm" [2], previewOf "two") ∈
      previewedPage.answers :=
  preview_of_clip previewedPage_reached _ (by decide) _ (by decide)

/-! ## The way back to the button -/

/-- The component waits for a press, with the microphone off. -/
def Waiting (page : VoiceRecorder) : Prop :=
  page.mounted = true ∧ page.phase = .idle ∧ page.live = []

/-- What brings the component on in each of its phases: the answer to its
request, a press of the button, and the last event of the recorder that was
asked to stop. -/
inductive Awaits (page : VoiceRecorder) : RecorderEvent → Prop where
  | granted {now : ℚ} {failure : Option StartFailure} :
      page.phase = .requesting →
      Awaits page (.granted page.session now failure)
  | denied : page.phase = .requesting → Awaits page (.denied page.session)
  | press {supported : Bool} {uuid : String} :
      page.phase = .recording → Awaits page (.press supported uuid)
  | stopped {id : Nat} {recorder : MediaRecorder}
      {failure : Option StartFailure} :
      page.phase = .stopping → page.recorders[id]? = some recorder →
      recorder.session = page.session → recorder.ended = false →
      recorder.recording = false → Awaits page (.stopped id failure)

/-- At most so many of the events that the component awaits, whichever come,
bring it back to the button; and until then, one of them can come. -/
inductive Returns (browser : Browser) : Nat → VoiceRecorder → Prop where
  | waits {steps : Nat} {page : VoiceRecorder} :
      page.Waiting → Returns browser steps page
  | awaits {steps : Nat} {page next : VoiceRecorder}
      {event : RecorderEvent} :
      page.Awaits event → (system browser).step page event = some next →
      (∀ event next, page.Awaits event →
        (system browser).step page event = some next →
        Returns browser steps next) →
      Returns browser (steps + 1) page

theorem Sound.waiting (sound : page.Sound) (mounted : page.mounted = true)
    (idle : page.phase = .idle) : page.Waiting := by
  have inactive : ¬ page.Active := fun active =>
    not_busy_of_idle idle (.inr active)
  exact ⟨mounted, idle, sound.live_of_inactive inactive⟩

theorem Sound.returns_stopping (sound : page.Sound)
    (mounted : page.mounted = true) (phase : page.phase = .stopping) :
    Returns browser 1 page := by
  obtain ⟨before, current, recorded⟩ := sound.active ⟨mounted, .inr phase⟩
  have awaits : page.Awaits (.stopped before.length none) :=
    .stopped phase recorded.found recorded.session recorded.unended
      (recorded.halted phase)
  have enabled : (system browser).step page (.stopped before.length none) =
      some (VoiceRecorder.onstop browser
        (page.setRecorder before.length
          { current with recording := false, ended := true })
        before.length { current with recording := false, ended := true }
        none) := by
    simp only [system, VoiceRecorder.step, recorderEvent, recorded.found,
      recorded.unended]
    rfl
  refine .awaits awaits enabled ?_
  intro event next awaited taken
  cases awaited with
  | granted requesting | denied requesting =>
      rw [phase] at requesting
      cases requesting
  | press recording =>
      rw [phase] at recording
      cases recording
  | stopped _ found own unended _ =>
      obtain ⟨recorder, same, _, ended⟩ := recorderEvent_eq taken
      rw [found] at same
      obtain rfl := Option.some.inj same
      obtain ⟨_, ⟨_, _, recording⟩ | delivers⟩ :=
        sound.onstop_current found unended own browser _ ended
      · rw [phase] at recording
        cases recording
      · exact .waits ⟨delivers.mounted, delivers.phase, delivers.live⟩

theorem Sound.returns_recording (sound : page.Sound)
    (mounted : page.mounted = true) (phase : page.phase = .recording) :
    Returns browser 2 page := by
  have pressed : ∀ supported uuid,
      (system browser).step page (.press supported uuid) =
        some (page.stopRecording browser) := by
    intro supported uuid
    simp only [system, VoiceRecorder.step, if_pos mounted,
      VoiceRecorder.press, phase]
  have awaits : page.Awaits (.press true "") := .press phase
  refine .awaits awaits (pressed true "") ?_
  intro event next awaited taken
  cases awaited with
  | granted requesting | denied requesting =>
      rw [phase] at requesting
      cases requesting
  | stopped stopping _ _ _ _ =>
      rw [phase] at stopping
      cases stopping
  | press _ =>
      rw [pressed] at taken
      cases taken
      obtain ⟨before, current, _, same⟩ :=
        sound.stopRecording_eq browser mounted phase
      refine (sound.stopRecording mounted).returns_stopping ?_ ?_
      · rw [same]
        exact mounted
      · rw [same]

/-- The answer to its request makes the component record or give up. -/
theorem useStream_phase (browser : Browser) (requesting : page.Requesting)
    (now : ℚ) (failure : Option StartFailure) :
    (useStream browser
        { page with requests := page.requests.erase page.session }
        page.session now failure).mounted = true ∧
      ((useStream browser
          { page with requests := page.requests.erase page.session }
          page.session now failure).phase = .idle ∨
        (useStream browser
          { page with requests := page.requests.erase page.session }
          page.session now failure).phase = .recording) := by
  have current : isCurrent
      { page with requests := page.requests.erase page.session }
      page.session = true :=
    isCurrent_eq_true.mpr ⟨requesting.1, rfl⟩
  have failed : ∀ held : VoiceRecorder, held.mounted = page.mounted →
      held.session = page.session →
      (held.startFailed page.session).mounted = true ∧
        ((held.startFailed page.session).phase = .idle ∨
          (held.startFailed page.session).phase = .recording) := by
    intro held mounted session
    have still : held.mounted = true := mounted.trans requesting.1
    rw [startFailed_eq held still session]
    exact ⟨still, .inl rfl⟩
  unfold useStream
  rw [if_pos current]
  dsimp only
  split
  case isTrue => exact failed _ rfl rfl
  case isFalse =>
    rcases startSegment_cases browser
        { page with
          requests := page.requests.erase page.session
          granted := page.granted + 1
          live := page.granted :: page.live
          stream := some page.granted
          startedAt := now } rfl
        (isCurrent_eq_true.mpr ⟨requesting.1, rfl⟩) browser.pickMimeType
        failure with
      thrown | ⟨recorder, throws, started, _⟩
    · rw [thrown]
      exact failed _ rfl rfl
    · rw [started]
      cases throws with
      | true => exact failed _ rfl rfl
      | false => exact ⟨requesting.1, .inr rfl⟩

theorem Sound.returns_requesting (sound : page.Sound)
    (mounted : page.mounted = true) (phase : page.phase = .requesting) :
    Returns browser 3 page := by
  have asked : page.session ∈ page.requests :=
    sound.requested.mpr ⟨mounted, phase⟩
  have denied : (system browser).step page (.denied page.session) =
      some (startFailed
        { page with requests := page.requests.erase page.session }
        page.session) := by
    simp only [system, VoiceRecorder.step, if_pos asked]
  refine .awaits (.denied phase) denied ?_
  intro event next awaited taken
  cases awaited with
  | press recording =>
      rw [phase] at recording
      cases recording
  | stopped stopping _ _ _ _ =>
      rw [phase] at stopping
      cases stopping
  | denied _ =>
      have same : startFailed
          { page with requests := page.requests.erase page.session }
          page.session = _ :=
        startFailed_eq _ mounted rfl
      have after := sound.denied asked
      rw [denied] at taken
      cases taken
      refine .waits (after.waiting ?_ ?_)
      · rw [same]
        exact mounted
      · rw [same]
  | @granted now failure _ =>
      simp only [system, VoiceRecorder.step, if_pos asked] at taken
      cases taken
      have after : Sound (useStream browser _ page.session now failure) :=
        sound.granted asked now failure
      obtain ⟨still, idle | recording⟩ :=
        useStream_phase browser ⟨mounted, phase⟩ now failure
      · exact .waits (after.waiting still idle)
      · exact after.returns_recording still recording

/-- Wherever a run has brought the component, the events that it awaits bring
it back to the button: the answer to a request, a press and a stop at most. -/
theorem never_stuck (reached : (system browser).Reachable page)
    (mounted : page.mounted = true) :
    ∃ steps, steps ≤ 3 ∧ Returns browser steps page := by
  have sound := sound_of_reachable reached
  cases phase : page.phase with
  | idle => exact ⟨0, Nat.zero_le 3, .waits (sound.waiting mounted phase)⟩
  | requesting =>
      exact ⟨3, le_rfl, sound.returns_requesting mounted phase⟩
  | recording =>
      exact ⟨2, Nat.le_succ 2, sound.returns_recording mounted phase⟩
  | stopping =>
      exact ⟨1, by decide, sound.returns_stopping mounted phase⟩

theorem never_stuck_recording :
    ∃ steps, steps ≤ 3 ∧ Returns plainBrowser steps recordingPage :=
  never_stuck (reachable_of_fresh recordingPage_reached) rfl

end VoiceRecorder

end JanSetu.Frontend
