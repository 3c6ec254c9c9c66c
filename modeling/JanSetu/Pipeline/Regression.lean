import JanSetu.Pipeline.Invariant

/-!
# The lifecycle does not regress

`run_pipeline`, `recheck_image`, `accept_photo_mismatch` and the second
transaction of `create_draft` set the status without looking at it again when
they write.  A grievance that has been registered or cancelled keeps that
behind it in every run in which these operations load it before, and in which
`finalize_grievance` and `cancel_grievance` go on only while none of them is
about to write it.
-/

namespace JanSetu

/-- Registered, or past it. -/
def GrievanceStatus.settled : GrievanceStatus → Bool
  | .draft => false
  | .processing => false
  | .photoMismatch => false
  | .awaitingConfirmation => false
  | _ => true

namespace Pipeline

open Process (Label)
open Transition.System (Always)

def Store.Settled (store : Store) (id : String) : Prop :=
  store.Has id fun row => row.status.settled = true

def Store.Unsettled (store : Store) (id : String) : Prop :=
  store.Every id fun row => row.status.settled = false

theorem Store.Settled.not_unsettled {store : Store} {id : String}
    (settled : store.Settled id) : ¬ store.Unsettled id := by
  intro unsettled
  obtain ⟨row, found, is⟩ := settled
  have isNot : row.status.settled = false := unsettled row found
  rw [is] at isNot
  cases isNot

/-- The operations that set a grievance back whatever its status is. -/
def Operation.setsBack : Operation → Bool
  | .storeUploads _ => true
  | .runPipeline => true
  | .recheckImage _ => true
  | _ => false

/-- The grievance that the task's next write sets back. -/
def Task.regresses : Task → Option String
  | .loaded (.storeUploads _) id _ => some id
  | .loaded .runPipeline id _ => some id
  | .loaded (.recheckImage _) id _ => some id
  | .loaded .acceptPhotoMismatch id known =>
      if known.status = .photoMismatch then some id else none
  | _ => none

/-- The grievance that the task is about to register or cancel. -/
def Task.settles : Task → Option String
  | .loaded .finalize id _ => some id
  | .searched id _ _ _ => some id
  | .loaded .cancel id _ => some id
  | _ => none

def Task.dispatches : Task → Option String
  | .opened .dispatch id => some id
  | .loaded .dispatch id _ => some id
  | .dispatching id _ => some id
  | .calling id _ => some id
  | .accepted id _ _ => some id
  | .refused id _ => some id
  | _ => none

/-- The steps under which the lifecycle does not regress. -/
def Orderly (world : World Store Job) (label : Label Request Choice) : Prop :=
  ∀ pid choice task, label = .resume pid choice → Runs world pid task →
    (∀ operation id, task = .opened operation id →
      operation.setsBack = true → world.shared.Unsettled id) ∧
    (∀ id, task.settles = some id → ∀ other right,
      Runs world other right → right.regresses ≠ some id)

/-! ## One write -/

section

variable {session : RowSession} {now : Time}
  {change : Grievance → Grievance}

theorem set_settled
    (before : session.current.status.settled = true)
    (changes : (change session.known).status = session.known.status ∨
      (change session.known).status.settled = true) :
    (session.set now change).current.status.settled = true := by
  rcases changes with same | settled
  · rw [RowSession.status_isColumn.set_same session now same]
    exact before
  · rcases RowSession.status_isColumn.set_cases session now with same | same
    · rw [same]
      exact before
    · rw [same]
      exact settled

theorem set_unsettled
    (before : session.current.status.settled = false)
    (changes : (change session.known).status = session.known.status ∨
      (change session.known).status.settled = false) :
    (session.set now change).current.status.settled = false := by
  rcases changes with same | unsettled
  · rw [RowSession.status_isColumn.set_same session now same]
    exact before
  · rcases RowSession.status_isColumn.set_cases session now with same | same
    · rw [same]
      exact before
    · rw [same]
      exact unsettled

/-- A status that is not known to be `registered` is overwritten. -/
theorem set_registered
    (other : session.known.status ≠ .registered) :
    (session.set now (registeredFields now)).current.status.settled =
      true := by
  rw [RowSession.status_isColumn.set_new session now (Ne.symm other)]
  rfl

end

theorem withReceipt_status (settings : Settings) (id : String)
    (status : GrievanceStatus) (fields : Grievance → Grievance)
    (row : Grievance) :
    (withReceipt settings id status fields row).status =
      (fields row).status :=
  withReceipt_column settings (fun _ => rfl) status fields row

/-- An operation sets a grievance back, leaves its status as it knows it, or
settles it. -/
theorem Operation.Writes.status {settings : Settings} {id : String}
    {known : Grievance} {answer : Answer} {operation : Operation}
    {fields : Grievance → Grievance} {next : Grievance → Progress}
    (writes : operation.Writes settings id known answer fields next) :
    (Task.loaded operation id known).regresses = some id ∧
        (fields known).status.settled = false ∨
      (fields known).status = known.status ∨
      (fields known).status.settled = true ∧
        (operation = .cancel ∨ operation = .dispatch) := by
  cases writes with
  | storeUploads form => exact .inl ⟨rfl, rfl⟩
  | runPipeline work route text =>
      refine .inl ⟨rfl, ?_⟩
      rw [withReceipt_status]
      show (RunPipeline.nextStatus known work).settled = false
      unfold RunPipeline.nextStatus
      split <;> rfl
  | acceptPhotoMismatch mismatch =>
      exact .inl ⟨by simp [Task.regresses, mismatch], rfl⟩
  | recheckImage proceed check verdict same =>
      refine .inl ⟨rfl, ?_⟩
      rw [withReceipt_status]
      show (RecheckImage.nextStatus verdict).settled = false
      unfold RecheckImage.nextStatus
      split <;> rfl
  | reextract extraction route => exact .inr (.inl rfl)
  | updateReview userId body categoryKey assetScope accepted =>
      exact .inr (.inl rfl)
  | officialAction official body categoryKey => exact .inr (.inl rfl)
  | replacePhoto userId path => exact .inr (.inl rfl)
  | cancel => exact .inr (.inr ⟨rfl, .inl rfl⟩)
  | dispatchDisabled disabled => exact .inr (.inr ⟨rfl, .inr rfl⟩)
  | dispatching enabled => exact .inr (.inr ⟨rfl, .inr rfl⟩)

theorem Confirms.status {id : String} {known : Grievance} {now : Time}
    {fields : Grievance → Grievance} {next : Grievance → Progress}
    (confirms : Confirms id known now fields next) :
    (fields known).status = .registered := by
  cases confirms <;> rfl

/-! ## The invariant -/

structure Store.Placed (store : Store) (task : Task) : Prop where
  regresses : ∀ id, task.regresses = some id → store.Unsettled id
  dispatches : ∀ id, task.dispatches = some id → store.Settled id
  finalizes : ∀ id known, task = .loaded .finalize id known →
    known.status.settled = true → store.Settled id

def lifecycle : TaskInvariant :=
  { shared := fun _ => True
    own := Store.Placed
    waiting := Store.Settled
    pair := fun _ _ => True }

section

variable {settings : Settings} {geometry : Geometry} {store after : Store}
  {now : Time} {answer : Answer} {task : Task} {progress : Progress}
  {id : String}

/-- What is settled stays settled through a step whose task is in place. -/
theorem Task.Moves.settled
    (moves : task.Moves settings geometry store now answer after progress)
    (placed : store.Placed task) (before : store.Settled id) :
    after.Settled id := by
  refine moves.has ?_ before
  intro known writes current touches _ settled
  cases touches with
  | wrote writes =>
      apply set_settled settled
      rcases writes.status with ⟨regresses, _⟩ | same | ⟨settles, _⟩
      · exact absurd (placed.regresses _ regresses) before.not_unsettled
      · exact .inl same
      · exact .inr settles
  | confirmed confirms =>
      apply set_settled settled
      right
      rw [confirms.status]
      rfl
  | openedWindow =>
      exact congrArg GrievanceStatus.settled
        (registeredThen_status .pendingWindow (fun _ => rfl) nofun)
  | merged =>
      exact congrArg GrievanceStatus.settled
        (registeredThen_status .duplicate (fun _ => rfl) nofun)
  | reported => exact set_settled settled (.inl rfl)
  | submitted => exact set_settled settled (.inr rfl)
  | retried =>
      apply set_settled settled
      right
      show (refusedStatus known).settled = true
      unfold refusedStatus
      split <;> rfl

/-- A step that registers or cancels another grievance, or none, settles
nothing. -/
theorem Task.Moves.unsettled
    (moves : task.Moves settings geometry store now answer after progress)
    (placed : store.Placed task) (elsewhere : task.settles ≠ some id)
    (before : store.Unsettled id) : after.Unsettled id := by
  have notDispatched : task.dispatches ≠ some id := by
    intro same
    exact (placed.dispatches id same).not_unsettled before
  refine moves.every (fun _ _ _ _ _ => rfl) ?_ before
  intro known writes current touches _ unsettled
  cases touches with
  | wrote writes =>
      apply set_unsettled unsettled
      rcases writes.status with
        ⟨_, unsettles⟩ | same | ⟨_, rfl | rfl⟩
      · exact .inr unsettles
      · exact .inl same
      · exact absurd rfl elsewhere
      · exact absurd rfl notDispatched
  | confirmed => exact absurd rfl elsewhere
  | openedWindow => exact absurd rfl elsewhere
  | merged => exact absurd rfl elsewhere
  | reported => exact set_unsettled unsettled (.inl rfl)
  | submitted => exact absurd rfl notDispatched
  | retried => exact absurd rfl notDispatched

end

/-! ## Runs -/

section

variable {settings : Settings} {geometry : Geometry}
  {admissible : Grievance → Prop} {world : World Store Job}

theorem lifecycle_enters {store : Store} {pid : Nat} {task : Task}
    (placed : store.Placed task) : lifecycle.Enters world pid store task :=
  ⟨placed, fun _ _ _ _ => ⟨trivial, trivial⟩⟩

/-- A task that neither writes a status nor dispatches. -/
theorem Store.Placed.of_idle {store : Store} {task : Task}
    (regresses : task.regresses = none) (dispatches : task.dispatches = none)
    (finalizes : ∀ id known, task ≠ .loaded .finalize id known) :
    store.Placed task := by
  constructor
  · intro id same
    rw [regresses] at same
    cases same
  · intro id same
    rw [dispatches] at same
    cases same
  · intro id known same
    exact absurd same (finalizes id known)

/-- The tasks of `dispatch_grievance` are in place on a settled grievance. -/
theorem Store.Placed.of_dispatch {store : Store} {task : Task} {id : String}
    (dispatches : task.dispatches = some id) (settled : store.Settled id) :
    store.Placed task := by
  unfold Task.dispatches at dispatches
  split at dispatches <;> cases dispatches <;>
    exact ⟨(fun _ same => by cases same),
      (fun _ same => by cases same; exact settled),
      (fun _ _ same => by cases same)⟩

/-- A row that was just loaded, by an operation that may set it back only when
it is not settled. -/
theorem Store.Placed.of_load {store : Store} {operation : Operation}
    {id : String} {row : Grievance}
    (found : store.grievances.find id = some row)
    (opens : operation.setsBack = true → store.Unsettled id)
    (dispatches : operation = .dispatch → store.Settled id) :
    store.Placed (.loaded operation id row) := by
  constructor
  · intro other regresses
    cases operation with
    | storeUploads form =>
        cases regresses
        exact opens rfl
    | runPipeline =>
        cases regresses
        exact opens rfl
    | recheckImage proceed =>
        cases regresses
        exact opens rfl
    | acceptPhotoMismatch =>
        simp only [Task.regresses] at regresses
        split at regresses
        case isTrue mismatch =>
          cases regresses
          intro same lookup
          rw [found] at lookup
          cases lookup
          rw [mismatch]
          rfl
        case isFalse => cases regresses
    | _ => cases regresses
  · intro other same
    cases operation with
    | dispatch =>
        cases same
        exact dispatches rfl
    | _ => cases same
  · intro _ _ doing settled
    cases doing
    exact ⟨row, found, settled⟩

/-- What is known of the task that a step leads to. -/
theorem Task.Moves.nextPlaced {store after : Store} {now : Time}
    {answer : Answer} {task next : Task}
    (moves : task.Moves settings geometry store now answer after (.more next))
    (placed : store.Placed task)
    (keeps : ∀ id, store.Settled id → after.Settled id)
    (opens : ∀ operation id, task = .opened operation id →
      operation.setsBack = true → store.Unsettled id) :
    after.Placed next := by
  cases moves.leads with
  | created stored draft =>
      constructor
      · intro _ regresses row found
        cases regresses
        obtain rfl := Option.some.inj (stored.symm.trans found)
        rw [draft]
        rfl
      · intro _ dispatches
        cases dispatches
      · intro _ _ doing
        cases doing
  | @loaded operation id row found =>
      refine .of_load found (opens operation id rfl) ?_
      rintro rfl
      exact placed.dispatches id rfl
  | passed which =>
      rcases which with rfl | rfl | rfl
      · exact .of_idle rfl rfl fun _ _ doing => by cases doing
      · exact .of_idle rfl rfl fun _ _ doing => by cases doing
      · exact .of_idle rfl rfl fun _ _ doing => by cases doing
  | @prioritised id known current _ _ _ wrote =>
      apply Store.Placed.of_dispatch rfl
      by_cases again : known.status = .registered
      · apply keeps
        apply placed.finalizes id known rfl
        rw [again]
        rfl
      · exact ⟨_, wrote.find_self, set_registered again⟩
  | searched => exact .of_idle rfl rfl fun _ _ doing => by cases doing
  | sent => exact .of_dispatch rfl (keeps _ (placed.dispatches _ rfl))
  | called => exact .of_dispatch rfl (keeps _ (placed.dispatches _ rfl))
  | accepted => exact .of_dispatch rfl (keeps _ (placed.dispatches _ rfl))
  | refused => exact .of_dispatch rfl (keeps _ (placed.dispatches _ rfl))

theorem lifecycle_holds
    (reachable : (program settings geometry admissible).system.ReachableWhen
      Orderly world) : lifecycle.Holds world := by
  refine TaskInvariant.holds (fun _ _ => trivial) ?sameRows ?started ?selected
    ?dispatches ?moved reachable
  case sameRows =>
    intro store after same
    have settled : ∀ id, store.Settled id → after.Settled id := by
      rintro id ⟨row, found, is⟩
      exact ⟨row, by rw [same.1, found], is⟩
    refine ⟨fun _ => trivial, ?_, settled⟩
    intro task placed
    refine ⟨?_, ?_, ?_⟩
    · intro id regresses row found
      rw [same.1] at found
      exact placed.regresses id regresses row found
    · exact fun id dispatches => settled id (placed.dispatches id dispatches)
    · exact fun id known doing is =>
        settled id (placed.finalizes id known doing is)
  case started =>
    intro world pid request task _ _ _ doing
    apply lifecycle_enters
    cases request <;> cases doing <;>
      exact .of_idle rfl rfl fun _ _ same => by cases same
  case selected =>
    intro store test limit ids now _ selects which id member
    obtain ⟨row, found, passes⟩ := selects.passes member
    refine ⟨row, found, ?_⟩
    rcases Store.status_of_selected which passes with same | same
    · rw [same]
      rfl
    · rw [same]
      rfl
  case dispatches =>
    intro world pid store id settled
    apply lifecycle_enters
    constructor
    · intro _ same
      cases same
    · intro _ same
      cases same
      exact settled
    · intro _ _ same
      cases same
  case moved =>
    intro world pid task choice after progress _ holding orderly runs _ moves
    have placed := holding.own runs
    obtain ⟨opens, settling⟩ := orderly pid choice task rfl runs
    generalize choice.answer = answer at moves
    have keeps : ∀ id, world.shared.Settled id → after.Settled id :=
      fun id => moves.settled placed
    refine ⟨trivial, ?_, keeps, ?_⟩
    · intro other found different runsOther before
      constructor
      · intro id regresses
        apply moves.unsettled placed _ (before.regresses id regresses)
        intro settles
        exact settling id settles other found runsOther regresses
      · exact fun id dispatches => keeps id (before.dispatches id dispatches)
      · exact fun id known doing is =>
          keeps id (before.finalizes id known doing is)
    · intro next same
      apply lifecycle_enters
      subst same
      exact moves.nextPlaced placed keeps opens

def SettledKept (before after : World Store Job) : Prop :=
  ∀ id, before.shared.Settled id → after.shared.Settled id

/-- Once a grievance is registered, duplicate, cancelled or anywhere past
that, it is never again a draft, processing, mismatched or awaiting
confirmation. -/
theorem status_never_regresses (settings : Settings) (geometry : Geometry)
    (admissible : Grievance → Prop) (world final : World Store Job)
    (labels : List (Label Request Choice))
    (reachable : (program settings geometry admissible).system.ReachableWhen
      Orderly world)
    (runs : (program settings geometry admissible).system.RunWhen Orderly
      world labels final)
    (id : String) (settled : world.shared.Settled id) :
    final.shared.Settled id := by
  have kept : SettledKept world final := by
    refine Transition.System.RunWhen.relates (fun _ _ before => before)
      (fun _ _ _ first second id before => second id (first id before))
      ?_ reachable runs
    intro world label next reached orderly taken id before
    have holding := lifecycle_holds reached
    refine step_has taken ?_ before
    intro pid choice task after progress _ runs _ moves
    exact moves.settled (holding.own runs) before
  exact kept id settled

end

/-! ## A run that keeps the condition, and one that does not -/

/-- A process that is alone is orderly unless it opens a settled grievance to
set it back. -/
def opensUnsettled (store : Store) (job : Job) (_ : Choice) : Bool :=
  match job.task with
  | some (.opened operation id) =>
      !operation.setsBack ||
        (store.grievances.find id).all (!·.status.settled)
  | _ => true

theorem Task.regresses_of_settles {task : Task} {id : String}
    (settles : task.settles = some id) : task.regresses = none := by
  unfold Task.settles at settles
  split at settles <;> first | rfl | cases settles

theorem orderly_of_alone {world : World Store Job} {job : Job}
    {choice : Choice} (only : Process.OnlyRunning world 0 (some job))
    (test : opensUnsettled world.shared job choice = true) :
    Orderly world (.resume 0 choice) := by
  intro pid _ task same runs
  cases same
  have doing := task_of_alone only runs
  constructor
  · rintro operation id rfl sets row found
    simpa [opensUnsettled, doing, sets, found] using test
  · intro id settles other right runsOther regresses
    have same : right = task :=
      Option.some.inj ((task_of_alone only runsOther).symm.trans doing)
    subst same
    rw [Task.regresses_of_settles settles] at regresses
    cases regresses

theorem status_never_regresses_confirmed :
    ∃ world final labels,
      (program defaultSettings flatMap fun _ => True).system.ReachableWhen
        Orderly world ∧
      (program defaultSettings flatMap fun _ => True).system.RunWhen
        Orderly world labels final ∧
      world.shared.Settled "g" ∧ final.shared.Settled "g" ∧
      world.shared.statusOf "g" = some .pendingWindow ∧
      final.shared.statusOf "g" = some .submitted := by
  have ran : (((program defaultSettings flatMap fun _ => True).serial
      opensUnsettled (.single "g" reviewedGrievance)
      [(.confirmDraft "g" "citizen",
        [⟨1, .plain⟩, ⟨1, .plain⟩, ⟨1, .plain⟩, ⟨1, .plain⟩,
         ⟨2, .plain⟩])]).bind fun middle =>
      ((program defaultSettings flatMap fun _ => True).serial
        opensUnsettled middle
        [(.sweepExpiredWindows 20,
          [⟨days 1 + 2, .selected ["g"]⟩, ⟨days 1 + 3, .plain⟩,
           ⟨days 1 + 3, .plain⟩, ⟨days 1 + 3, .plain⟩,
           ⟨days 1 + 4, .accepted "MUN-1"⟩,
           ⟨days 1 + 4, .plain⟩])]).map fun final =>
        (middle.statusOf "g", final.statusOf "g")) =
      some (some .pendingWindow, some .submitted) := by
    decide +kernel
  have initial : (program defaultSettings flatMap fun _ => True).initial
      (.single "g" reviewedGrievance) := Store.single_initial trivial
  obtain ⟨world, final, labels, reached, runs, _, before, after⟩ :=
    Process.Program.runs_serial initial
      (fun _ _ _ _ _ _ _ same => by cases same)
      (fun _ _ _ => orderly_of_alone) ran
  obtain ⟨row, found, status⟩ := Option.map_eq_some_iff.mp before
  have settled : world.shared.Settled "g" := by
    refine ⟨row, found, ?_⟩
    show row.status.settled = true
    rw [status]
    rfl
  exact ⟨world, final, labels, reached, runs, settled,
    status_never_regresses _ _ _ _ _ _ reached runs "g" settled, before,
    after⟩

/-- A citizen who has confirmed replaces the photo. -/
theorem status_regresses :
    ∃ world final labels,
      (program defaultSettings flatMap fun _ => True).system.Reachable world ∧
      (program defaultSettings flatMap fun _ => True).system.RunWhen
        Always world labels final ∧
      world.shared.statusOf "g" = some .pendingWindow ∧
      final.shared.statusOf "g" = some .awaitingConfirmation := by
  have ran : (((program defaultSettings flatMap fun _ => True).system.run
      (World.start (.single "g" reviewedGrievance))
      [.spawn 0 (.confirmDraft "g" "citizen"),
       .resume 0 ⟨1, .plain⟩, .resume 0 ⟨1, .plain⟩, .resume 0 ⟨1, .plain⟩,
       .resume 0 ⟨1, .plain⟩, .resume 0 ⟨2, .plain⟩]).bind fun middle =>
      ((program defaultSettings flatMap fun _ => True).system.run middle
        [.spawn 0 (.replacePhoto "g" "citizen" "data/uploads/g/new.jpg"),
         .resume 0 ⟨3, .plain⟩, .resume 0 ⟨3, .plain⟩, .resume 0 ⟨4, .plain⟩,
         .resume 0 ⟨5, .photo (.compared true)⟩]).map fun final =>
        (middle.shared.statusOf "g", final.shared.statusOf "g")) =
      some (some .pendingWindow, some .awaitingConfirmation) := by
    decide +kernel
  have initial : (program defaultSettings flatMap fun _ => True).system.initial
      (World.start (.single "g" reviewedGrievance)) :=
    ⟨_, Store.single_initial trivial, rfl⟩
  obtain ⟨world, final, reached, runs, before, after⟩ :=
    Transition.System.runs_of_run_map initial ran
  exact ⟨world, final, _, reached, runs, before, after⟩

end Pipeline

end JanSetu
