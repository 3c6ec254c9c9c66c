import JanSetu.Pipeline.Checks

/-!
# Dispatch fails closed

The dispatcher is called by a run of `dispatch_grievance` that has loaded the
grievance with no snapshot or with one that enables the dispatch.  What is
stored by then, and that no official has to look at the grievance first, rests
on `finalize_grievance`: it holds in the runs in which a grievance that is
being confirmed is not extracted again, and is reviewed only by requests that
have seen the stored snapshot and do not come between the load and the call of
a dispatch.
-/

namespace JanSetu.Pipeline

open Process (Label)
open Transition.System (Always)

/-- Every call in the journal was made on what the test accepts. -/
def Store.Calls (store : Store)
    (test : Grievance → Grievance → Prop) : Prop :=
  ∀ id read stored, .called id read stored ∈ store.journal →
    test read stored

/-- What is stored of a grievance at a call: a snapshot, if there is one, that
enables the dispatch, no official to be waited for, and a disposition, if there
is one, of a municipal ticket. -/
def Cleared (row : Grievance) : Prop :=
  dispatchDisabled row = false ∧
    row.reviewStatus ≠ some .pendingOfficial ∧ needsDisposition row = false

/-- The grievance is confirmed, or about to be. -/
def Claimed (world : World Store Job) (id : String) : Prop :=
  world.shared.Has id (·.confirmedAt ≠ none) ∨
    ∃ other task known, Runs world other task ∧
      task.finalizing = some (id, known)

/-- The steps under which what `finalize_grievance` has checked stays true. -/
def ReviewedBefore (world : World Store Job)
    (label : Label Request Choice) : Prop :=
  ∀ pid choice operation id known, label = .resume pid choice →
    choice.answer ≠ .raises → Runs world pid (.loaded operation id known) →
    Claimed world id →
    operation.extracts = false ∧
      (operation.reviews = true →
        world.shared.Every id (·.routingSnapshot = known.routingSnapshot) ∧
          ∀ other task found, Runs world other task →
            task.unsent ≠ some (id, found))

/-! ## The guard of `dispatch_grievance` -/

section

variable {settings : Settings} {geometry : Geometry} {store after : Store}
  {now : Time} {answer : Answer} {task : Task} {progress : Progress}
  {id : String}

/-- A step that is no call leaves the calls as they are. -/
theorem Task.Moves.calls
    (moves : task.Moves settings geometry store now answer after progress)
    {test : Grievance → Grievance → Prop} (before : store.Calls test)
    (calls : ∀ id known stored, task = .dispatching id known →
      store.grievances.find id = some stored → test known stored) :
    after.Calls test := by
  have same : after.journal = store.journal → after.Calls test := by
    intro journal id read stored member
    rw [journal] at member
    exact before id read stored member
  have confirmed : ∀ target,
      after.journal = .confirmed target :: store.journal →
      after.Calls test := by
    intro target journal id read stored member
    rw [journal] at member
    cases member with
    | tail _ member => exact before id read stored member
  cases moves with
  | created _ _ _ journal => exact same journal
  | tapped => exact confirmed _ rfl
  | loaded => exact before
  | missing => exact before
  | returned => exact before
  | confirming => exact before
  | skipped => exact before
  | wrote _ wrote => exact same wrote.journal
  | confirmed _ wrote => exact confirmed _ wrote.journal
  | searched _ _ _ journal => exact same journal
  | openedWindow wrote => exact confirmed _ wrote.journal
  | merged wrote wroteMaster =>
      exact confirmed _ (wroteMaster.journal.trans wrote.journal)
  | @called target known stored found =>
      intro id read stored' member
      rcases List.mem_cons.mp member with same | member
      · cases same
        exact calls target known stored rfl found
      · exact before id read stored' member
  | accepted =>
      intro id read stored member
      cases member with
      | tail _ member => exact before id read stored member
  | refused => exact before
  | submitted wrote => exact same wrote.journal
  | retried wrote => exact same wrote.journal

/-- A run of `dispatch_grievance` gets past its guard with what it loaded. -/
theorem Task.Moves.dispatching {known : Grievance}
    (moves : task.Moves settings geometry store now answer after
      (.more (.dispatching id known))) :
    ∃ loaded status time, task = .loaded .dispatch id loaded ∧
      dispatchDisabled loaded = false ∧
      known = { loaded with status := status, updatedAt := time } := by
  cases moves.leads with
  | sent enabled =>
      obtain ⟨status, time, same⟩ := set_dispatching_known _ _
      exact ⟨_, status, time, rfl, enabled, same⟩

end

def guarded : TaskInvariant :=
  { shared := fun store =>
      store.Calls fun read _ => dispatchDisabled read = false
    own := fun _ task => ∀ id known, task = .dispatching id known →
      dispatchDisabled known = false
    waiting := fun _ _ => True
    pair := fun _ _ => True }

theorem guarded_enters {world : World Store Job} {pid : Nat}
    {store : Store} {task : Task}
    (own : ∀ id known, task = .dispatching id known →
      dispatchDisabled known = false) :
    guarded.Enters world pid store task :=
  ⟨own, fun _ _ _ _ => ⟨trivial, trivial⟩⟩

section

variable {settings : Settings} {geometry : Geometry}
  {admissible : Grievance → Prop} {world : World Store Job}
  {allowed : World Store Job → Label Request Choice → Prop}

theorem guarded_holds
    (reachable : (program settings geometry admissible).system.ReachableWhen
      allowed world) : guarded.Holds world := by
  refine TaskInvariant.holds ?initially ?sameRows ?started ?selected ?dispatches
    ?moved reachable
  case initially =>
    rintro store ⟨_, journal, _⟩ id read stored member
    rw [journal] at member
    cases member
  case sameRows =>
    intro store after same
    refine ⟨?_, fun _ own => own, fun _ _ => trivial⟩
    intro before id read stored member
    rw [same.2] at member
    exact before id read stored member
  case started =>
    intro world pid request task _ _ _ doing
    apply guarded_enters
    rintro id known rfl
    cases request <;> cases doing
  case selected => exact fun _ _ _ _ _ _ _ _ _ _ => trivial
  case dispatches =>
    intro world pid store id _
    apply guarded_enters
    intro id known same
    cases same
  case moved =>
    intro world pid task choice after progress _ holding _ runs _ moves
    refine ⟨?_, fun _ _ _ _ own => own, fun _ _ => trivial, ?_⟩
    · apply moves.calls holding.shared
      rintro id known stored rfl _
      exact holding.own runs id known rfl
    · rintro next rfl
      apply guarded_enters
      rintro id known rfl
      obtain ⟨loaded, status, time, _, enabled, rfl⟩ := moves.dispatching
      exact enabled

end

/-! ## Runs -/

/-- New grievances: neither confirmed nor registered. -/
def Unconfirmed (row : Grievance) : Prop :=
  row.status.settled = false ∧ row.confirmedAt = none

def secured : TaskInvariant :=
  { shared := fun store =>
      (∀ id, store.Every id fun row => row.status.swept = true → Ready row) ∧
        store.Calls fun _ stored => Cleared stored
    own := Store.Secured
    waiting := fun store id => store.Has id Ready
    pair := fun _ _ => True }

theorem secured_enters {world : World Store Job} {pid : Nat} {store : Store}
    {task : Task} (placed : store.Secured task) :
    secured.Enters world pid store task :=
  ⟨placed, fun _ _ _ _ => ⟨trivial, trivial⟩⟩

theorem claimed_of_ready {world : World Store Job} {id : String}
    (ready : world.shared.Has id Ready) : Claimed world id :=
  .inl (ready.mono fun _ ready => ready.1)

theorem ReviewedBefore.steady {world : World Store Job} {pid : Nat}
    {choice : Choice} {task : Task} {id : String}
    (permitted : ReviewedBefore world (.resume pid choice))
    (plain : choice.answer ≠ .raises) (runs : Runs world pid task)
    (claimed : Claimed world id) : world.shared.Steady task id := by
  rintro operation known rfl
  obtain ⟨extracts, reviewing⟩ :=
    permitted pid choice operation id known rfl plain runs claimed
  exact ⟨extracts, fun reviews => (reviewing reviews).1⟩

section

variable {settings : Settings} {geometry : Geometry}
  {world : World Store Job}

theorem secured_holds
    (reachable : (program settings geometry Unconfirmed).system.ReachableWhen
      ReviewedBefore world) : secured.Holds world := by
  refine TaskInvariant.holds ?initially ?sameRows ?started ?selected ?dispatches
    ?moved reachable
  case initially =>
    rintro store ⟨_, journal, admits⟩
    constructor
    · intro id row found swept
      have unsettled := (admits id row found).1
      rw [GrievanceStatus.settled_of_swept swept] at unsettled
      cases unsettled
    · intro id read stored member
      rw [journal] at member
      cases member
  case sameRows =>
    intro store after same
    have has : ∀ {id property}, store.Has id property →
        after.Has id property := by
      rintro id property ⟨row, found, holds⟩
      exact ⟨row, by rw [same.1, found], holds⟩
    refine ⟨?_, ?_, fun id ready => has ready⟩
    · rintro ⟨ready, calls⟩
      constructor
      · intro id row found
        rw [same.1] at found
        exact ready id row found
      · intro id read stored member
        rw [same.2] at member
        exact calls id read stored member
    · intro task placed
      exact ⟨fun id known doing => has (placed.upheld id known doing),
        fun id known doing is => has (placed.confirmed id known doing is),
        placed.checked,
        fun id doing => has (placed.dispatches id doing),
        fun id known doing => has (placed.unsent id known doing)⟩
  case started =>
    intro world pid request task _ _ _ doing
    apply secured_enters
    cases request <;> cases doing <;> exact .of_idle rfl rfl
  case selected =>
    intro store test limit ids now shared selects which id member
    obtain ⟨row, found, passes⟩ := selects.passes member
    refine ⟨row, found, shared.1 id row found ?_⟩
    rcases Store.status_of_selected which passes with same | same
    · rw [same]
      rfl
    · rw [same]
      rfl
  case dispatches =>
    intro world pid store id ready
    apply secured_enters
    apply Store.Secured.of_dispatch rfl ready
    intro known same
    cases same
  case moved =>
    intro world pid task choice after progress reached holding permitted runs
      plain moves
    have placed := holding.own runs
    have guards := (guarded_holds reached).own runs
    have steady : ∀ id, Claimed world id → world.shared.Steady task id :=
      fun id => permitted.steady plain runs
    have ready : ∀ id, world.shared.Has id Ready → after.Has id Ready :=
      fun id before => moves.ready placed (steady id (claimed_of_ready before)) before
    have upheld : ∀ id known, task.finalizing = some (id, known) →
        after.Has id (Upheld known) := by
      intro id known finalizing
      apply moves.upheld placed _ (placed.upheld id known finalizing)
      exact steady id (.inr ⟨pid, task, known, runs, finalizing⟩)
    refine ⟨⟨?_, ?_⟩, ?_, ready, ?_⟩
    · intro id row found swept
      obtain ⟨row', found', ready⟩ :=
        moves.ready_of_swept placed ready upheld
          (fun id row found => holding.shared.1 id row found) found swept
      exact Option.some.inj (found'.symm.trans found) ▸ ready
    · apply moves.calls holding.shared.2
      rintro id known stored rfl found
      obtain ⟨row, found', snapshot⟩ := placed.unsent id known rfl
      obtain ⟨row', found'', _, checked⟩ := placed.dispatches id rfl
      have same : row = stored := Option.some.inj (found'.symm.trans found)
      have same' : row' = stored :=
        Option.some.inj (found''.symm.trans found)
      subst same
      subst same'
      have enabled : dispatchDisabled row' = false := by
        rw [dispatchDisabled_congr snapshot]
        exact guards id known rfl
      rcases checked with disabled | checked
      · rw [enabled] at disabled
        cases disabled
      · exact ⟨enabled, checked⟩
    · intro other found different runsOther before
      constructor
      · intro id known finalizing
        apply moves.upheld placed _ (before.upheld id known finalizing)
        exact steady id (.inr ⟨other, found, known, runsOther, finalizing⟩)
      · intro id known finalizing is
        exact moves.keeps_present RowSession.confirmedAt_isColumn
          (fun _ _ => Change.confirmedAt)
          (before.confirmed id known finalizing is)
      · exact before.checked
      · exact fun id dispatches => ready id (before.dispatches id dispatches)
      · intro id known unsent
        have claimed := claimed_of_ready
          (before.dispatches id (Task.dispatches_of_unsent unsent))
        apply moves.keeps_snapshot _ (before.unsent id known unsent)
        rintro operation loaded rfl
        obtain ⟨extracts, reviewing⟩ :=
          permitted pid choice operation id loaded rfl plain runs claimed
        refine ⟨extracts, ?_⟩
        by_contra reviews
        exact (reviewing (by simpa using reviews)).2 other found known
          runsOther unsent
    · rintro next rfl
      exact secured_enters (moves.secured placed ready upheld)

/-- A dispatch is called for with no snapshot loaded, or one that enables it;
and in the runs of the condition, for a grievance that is stored as cleared. -/
theorem dispatch_fails_closed (admissible : Grievance → Prop) :
    ((program settings geometry admissible).system.Reachable world →
      world.shared.Calls fun read _ => dispatchDisabled read = false) ∧
    ((program settings geometry Unconfirmed).system.ReachableWhen
        ReviewedBefore world →
      world.shared.Calls fun _ stored => Cleared stored) :=
  ⟨fun reachable => (guarded_holds reachable).shared,
    fun reachable => (secured_holds reachable).shared.2⟩

end

/-! ## A run that keeps the condition, and one without a snapshot -/

/-- The snapshot and the disposition that were stored at a call. -/
def Entry.calledWith (id : String) :
    Entry → Option (Option RoutingSnapshot × Option Disposition)
  | .called other _ stored =>
      if other = id then some (stored.routingSnapshot, stored.disposition)
      else none
  | _ => none

/-- A process that is alone keeps the condition unless it extracts or reviews a
confirmed grievance. -/
def reviewsUnconfirmed (store : Store) (job : Job) (_ : Choice) : Bool :=
  match job.task with
  | some (.loaded operation id _) =>
      !operation.extracts && !operation.reviews ||
        (store.grievances.find id).all (·.confirmedAt.isNone)
  | _ => true

theorem reviewedBefore_of_alone {world : World Store Job} {job : Job}
    {choice : Choice} (only : Process.OnlyRunning world 0 (some job))
    (test : reviewsUnconfirmed world.shared job choice = true) :
    ReviewedBefore world (.resume 0 choice) := by
  intro pid _ operation id known same _ runs claimed
  cases same
  have doing := task_of_alone only runs
  by_cases idle : operation.extracts = false ∧ operation.reviews = false
  · refine ⟨idle.1, fun reviews => ?_⟩
    rw [idle.2] at reviews
    cases reviews
  · have unconfirmed :
        (world.shared.grievances.find id).all (·.confirmedAt.isNone) =
          true := by
      unfold reviewsUnconfirmed at test
      rw [doing] at test
      simp only [Bool.or_eq_true, Bool.and_eq_true, Bool.not_eq_true'] at test
      exact test.resolve_left idle
    rcases claimed with ⟨row, found, confirmed⟩ |
      ⟨other, task, found, runsOther, finalizing⟩
    · rw [found] at unconfirmed
      exact absurd (by simpa using unconfirmed) confirmed
    · have same : task = .loaded operation id known :=
        Option.some.inj ((task_of_alone only runsOther).symm.trans doing)
      subst same
      cases operation with
      | finalize => exact absurd ⟨rfl, rfl⟩ idle
      | _ => cases finalizing

theorem dispatch_fails_closed_priority :
    ∃ world, (program defaultSettings flatMap Unconfirmed).system.ReachableWhen
        ReviewedBefore world ∧
      (world.shared.Calls fun _ stored => Cleared stored) ∧
      (world.shared.journal.findSome? (Entry.calledWith "g")).isSome =
        true := by
  have ran : ((program defaultSettings flatMap Unconfirmed).serial
      reviewsUnconfirmed
      (.single "g" { reviewedGrievance with priority := some .priority })
      [(.confirmDraft "g" "citizen",
        [⟨1, .plain⟩, ⟨1, .plain⟩, ⟨1, .plain⟩, ⟨1, .plain⟩, ⟨1, .plain⟩,
         ⟨1, .plain⟩, ⟨1, .plain⟩, ⟨2, .refused⟩, ⟨2, .plain⟩])]).map
      (fun store =>
        (store.journal.findSome? (Entry.calledWith "g")).isSome) =
      some true := by
    decide +kernel
  have initial : (program defaultSettings flatMap Unconfirmed).initial
      (.single "g" { reviewedGrievance with priority := some .priority }) :=
    Store.single_initial ⟨rfl, rfl⟩
  obtain ⟨world, reached, _, called⟩ :=
    Process.Program.reachable_serial initial
      (fun _ _ _ _ _ _ _ _ _ same => by cases same)
      (fun _ _ _ => reviewedBefore_of_alone) ran
  exact ⟨world, reached, (dispatch_fails_closed fun _ => True).2 reached,
    called⟩

/-- A draft that was never classified gets past `recheck_image`. -/
theorem dispatched_without_snapshot :
    ∃ world read stored,
      (program defaultSettings flatMap Unconfirmed).system.Reachable world ∧
      .called "g" read stored ∈ world.shared.journal ∧
      stored.routingSnapshot = none ∧ stored.disposition = none := by
  let draft :=
    draftGrievance "JS-20260625-00001" "contact" none (some "citizen") .web
      { lat := some 28, lon := some 77, displayAddress := none
        messages := [], photoMediaId := none } 0
  have ran : ((program defaultSettings flatMap Unconfirmed).system.run
      (World.start (.single "g" draft))
      [.spawn 0 (.replacePhoto "g" "citizen" "data/uploads/g/new.jpg"),
       .resume 0 ⟨1, .plain⟩, .resume 0 ⟨1, .plain⟩, .resume 0 ⟨2, .plain⟩,
       .resume 0 ⟨3, .photo (.compared true)⟩,
       .spawn 0 (.confirmDraft "g" "citizen"),
       .resume 0 ⟨4, .plain⟩, .resume 0 ⟨4, .plain⟩, .resume 0 ⟨4, .plain⟩,
       .resume 0 ⟨4, .plain⟩, .resume 0 ⟨5, .plain⟩,
       .spawn 0 (.sweepExpiredWindows 20),
       .resume 0 ⟨days 2, .selected ["g"]⟩, .resume 0 ⟨days 2, .plain⟩,
       .resume 0 ⟨days 2, .plain⟩, .resume 0 ⟨days 2, .plain⟩]).map
      (fun world => world.shared.journal.findSome?
        (Entry.calledWith "g")) = some (some (none, none)) := by
    decide +kernel
  have initial : (program defaultSettings flatMap Unconfirmed).system.initial
      (World.start (.single "g" draft)) :=
    ⟨_, Store.single_initial ⟨rfl, rfl⟩, rfl⟩
  obtain ⟨world, reached, called⟩ :=
    Transition.System.reachable_of_run_map initial ran
  obtain ⟨entry, member, calls⟩ := List.exists_of_findSome?_eq_some called
  unfold Entry.calledWith at calls
  split at calls
  case h_1 other read stored =>
    split at calls
    case isTrue same =>
      simp only [Option.some.injEq, Prod.mk.injEq] at calls
      exact ⟨world, read, stored, reached, same ▸ member, calls⟩
    case isFalse => cases calls
  case h_2 => cases calls

end JanSetu.Pipeline
