import JanSetu.Pipeline.Recovery

/-!
# No confirmed grievance is orphaned

In the runs of the operations of `Recovery`, when no step is in progress every
confirmed grievance is terminal, selected by a sweep, or in the hands of an
official.  The condition says which crashes, reviews and late dispatches such a
run must be spared.
-/

namespace JanSetu.Pipeline

open Process (Label)

/-! ## Runs -/

/-- New grievances: none is registered. -/
def Unregistered (row : Grievance) : Prop :=
  row.status.settled = false

def proceeding : TaskInvariant :=
  { shared := fun _ => True
    own := fun _ task => ∀ operation id known,
      task = .loaded operation id known → operation.proceeds = true
    waiting := fun _ _ => True
    pair := fun _ _ => True }

section

variable {settings : Settings} {geometry : Geometry}
  {admissible : Grievance → Prop} {world : World Store Job}

theorem proceeding_holds
    (reachable : (program settings geometry admissible).system.ReachableWhen
      Attentive world) : proceeding.Holds world := by
  have idle : ∀ (world : World Store Job) pid store task,
      (∀ operation id known, task ≠ .loaded operation id known) →
      proceeding.Enters world pid store task := by
    intro world pid store task other
    exact ⟨fun operation id known same => absurd same (other _ _ _),
      fun _ _ _ _ => ⟨trivial, trivial⟩⟩
  refine TaskInvariant.holds (fun _ _ => trivial) ?sameRows ?started ?selected
    ?dispatches ?moved reachable
  case sameRows =>
    exact fun _ _ _ => ⟨fun _ => trivial, fun _ own => own, fun _ _ => trivial⟩
  case started =>
    intro world pid request task _ _ _ doing
    apply idle
    intro _ _ _ same
    cases request <;> cases doing <;> cases same
  case selected => exact fun _ _ _ _ _ _ _ _ _ _ => trivial
  case dispatches =>
    intro world pid store id _
    apply idle
    intro _ _ _ same
    cases same
  case moved =>
    intro world pid task choice after progress _ _ attentive runs _ moves
    have proceeds := attentive.proceeds pid choice task rfl runs
    generalize choice.answer = answer at moves
    refine ⟨trivial, fun _ _ _ _ own => own, fun _ _ => trivial, ?_⟩
    intro next same
    subst same
    cases moves.leads with
    | created => cases proceeds
    | loaded =>
        refine ⟨?_, fun _ _ _ _ => ⟨trivial, trivial⟩⟩
        intro _ _ _ doing
        cases doing
        exact proceeds
    | _ =>
        apply idle
        intro _ _ _ doing
        cases doing

/-- None of these operations sets a grievance back. -/
theorem orderly_of_attentive
    (reachable : (program settings geometry admissible).system.ReachableWhen
      Attentive world) :
    (program settings geometry admissible).system.ReachableWhen Orderly
      world := by
  apply reachable.mono
  intro world label reached attentive pid choice task same runs
  constructor
  · rintro operation id rfl sets
    have proceeds := attentive.proceeds pid choice _ same runs
    cases operation with
    | storeUploads => cases proceeds
    | runPipeline => cases proceeds
    | recheckImage => cases proceeds
    | _ => cases sets
  · intro id _ other right runsOther regresses
    have proceeds : ∀ operation id known,
        right = .loaded operation id known → operation.proceeds = true :=
      (proceeding_holds reached).own runsOther
    unfold Task.regresses at regresses
    split at regresses
    · cases proceeds _ _ _ rfl
    · cases proceeds _ _ _ rfl
    · cases proceeds _ _ _ rfl
    · cases proceeds _ _ _ rfl
    · cases regresses

/-- A task that has neither loaded a grievance to confirm or dispatch it nor
sent it. -/
theorem Store.Attending.of_idle {store : Store} {task : Task}
    (sent : task.sent = none) (entrusts : task.entrusts = none)
    (finalizing : task.finalizing = none) : store.Attending task := by
  constructor
  · intro id known same
    rw [sent] at same
    cases same
  · intro id same
    rw [entrusts] at same
    cases same
  · intro id known same
    rw [finalizing] at same
    cases same

theorem Store.Attending.of_sent {store : Store} {task : Task} {id : String}
    {known : Grievance} (sent : task.sent = some (id, known))
    (dispatching : known.status = .dispatching) : store.Attending task := by
  have idle : task.entrusts = none ∧ task.finalizing = none := by
    unfold Task.sent at sent
    split at sent <;> cases sent <;> exact ⟨rfl, rfl⟩
  constructor
  · intro other knows same
    rw [sent] at same
    cases same
    exact dispatching
  · intro other same
    rw [idle.1] at same
    cases same
  · intro other knows same
    rw [idle.2] at same
    cases same

theorem Store.Attending.of_load {store : Store} {operation : Operation}
    {id : String} {row : Grievance}
    (found : store.grievances.find id = some row) :
    store.Attending (.loaded operation id row) := by
  have official : row.reviewStatus = some .pendingOfficial →
      Official row := by
    intro pending
    unfold Official
    rw [pending]
    rfl
  constructor
  · intro _ _ same
    cases same
  · intro other entrusts
    cases operation with
    | finalize =>
        simp only [Task.entrusts, Option.ite_none_right_eq_some,
          Option.some.injEq] at entrusts
        exact ⟨row, entrusts.2 ▸ found, official entrusts.1⟩
    | dispatch =>
        simp only [Task.entrusts, Option.ite_none_right_eq_some,
          Option.some.injEq] at entrusts
        exact ⟨row, entrusts.2 ▸ found, official entrusts.1⟩
    | _ => cases entrusts
  · intro _ _ finalizing present
    cases operation with
    | finalize =>
        cases finalizing
        exact ⟨row, found, present⟩
    | _ => cases finalizing

/-- What is known of the task that a step leads to. -/
theorem Task.Moves.attending {store after : Store} {now : Time}
    {answer : Answer}
    {task next : Task}
    (moves : task.Moves settings geometry store now answer after (.more next))
    (placed : store.Attending task) : after.Attending next := by
  cases moves.leads with
  | created => exact .of_idle rfl rfl rfl
  | loaded found => exact .of_load found
  | passed which =>
      rcases which with rfl | rfl | rfl
      · exact .of_idle rfl rfl rfl
      · exact .of_idle rfl rfl rfl
      · exact .of_idle rfl rfl rfl
  | prioritised => exact .of_idle rfl rfl rfl
  | @searched id known _ _ _ _ rows =>
      constructor
      · intro _ _ sent
        cases sent
      · intro _ entrusts
        cases entrusts
      · intro _ _ finalizing present
        cases finalizing
        obtain ⟨row, found, windowed⟩ := placed.windowed id known rfl present
        exact ⟨row, by rw [rows, found], windowed⟩
  | sent => exact .of_sent rfl (RowSession.status_isColumn.set_known _ _)
  | called => exact .of_sent rfl (placed.sent _ _ rfl)
  | accepted => exact .of_sent rfl (placed.sent _ _ rfl)
  | refused => exact .of_sent rfl (placed.sent _ _ rfl)

def attending : TaskInvariant :=
  { shared := fun store => ∀ id, store.Every id Sound
    own := Store.Attending
    waiting := fun _ _ => True
    pair := fun _ _ => True }

theorem attending_enters {world : World Store Job} {pid : Nat}
    {store : Store} {task : Task} (placed : store.Attending task) :
    attending.Enters world pid store task :=
  ⟨placed, fun _ _ _ _ => ⟨trivial, trivial⟩⟩

theorem attending_holds
    (reachable : (program settings geometry Unregistered).system.ReachableWhen
      Attentive world) : attending.Holds world := by
  refine TaskInvariant.holds ?initially ?sameRows ?started ?selected ?dispatches
    ?moved reachable
  case initially =>
    rintro store ⟨_, _, admits⟩ id row found
    have unsettled : row.status.settled = false := admits id row found
    apply Sound.of_unswept
    · by_contra swept
      have settled := GrievanceStatus.settled_of_swept (by simpa using swept)
      rw [unsettled] at settled
      cases settled
    · intro cancelled
      rw [cancelled] at unsettled
      cases unsettled
  case sameRows =>
    intro store after same
    have has : ∀ {id property}, store.Has id property →
        after.Has id property := by
      rintro id property ⟨row, found, holds⟩
      exact ⟨row, by rw [same.1, found], holds⟩
    refine ⟨?_, ?_, fun _ _ => trivial⟩
    · intro sound id row found
      rw [same.1] at found
      exact sound id row found
    · intro task placed
      exact ⟨placed.sent, fun id entrusts => has (placed.entrusted id entrusts),
        fun id known doing present =>
          has (placed.windowed id known doing present)⟩
  case started =>
    intro world pid request task _ _ _ doing
    apply attending_enters
    cases request <;> cases doing <;> exact .of_idle rfl rfl rfl
  case selected => exact fun _ _ _ _ _ _ _ _ _ _ => trivial
  case dispatches =>
    exact fun _ _ _ _ _ => attending_enters (.of_idle rfl rfl rfl)
  case moved =>
    intro world pid task choice after progress reached holding attentive runs
      plain moves
    have placed := holding.own runs
    have proceeds := attentive.proceeds pid choice task rfl runs
    refine ⟨?_, ?_, fun _ _ => trivial, ?_⟩
    · intro id
      apply moves.sound proceeds placed _ (holding.shared id)
      rintro id known rfl again enabled
      exact attentive.attempts pid choice id known rfl plain runs again enabled
    · intro other found different runsOther before
      refine ⟨before.sent, ?_, ?_⟩
      · intro id entrusts
        apply moves.keeps_official proceeds _ (before.entrusted id entrusts)
        rintro operation known rfl
        by_contra returned
        exact (attentive.reviews pid choice operation id known rfl runs
          (by simpa using returned)).2 other found runsOther entrusts
      · intro id known doing present
        exact moves.keeps_present RowSession.windowExpiresAt_isColumn
          (fun _ _ => Change.windowExpiresAt)
          (before.windowed id known doing present)
    · rintro next rfl
      exact attending_enters (moves.attending placed)

/-- The process is about to take the grievance further. -/
def Attends (job : Job) (id : String) : Prop :=
  ∃ task, job.task = some task ∧ task.attends = some id

/-- A confirmed grievance that waits is attended by some process. -/
theorem unattended_carried
    (reachable : (program settings geometry Unregistered).system.ReachableWhen
      Attentive world) :
    Process.Carried Store.Unattended Attends world := by
  have byOther : ∀ {world : World Store Job} {pid : Nat} {id : String}
      {label : Label Request Choice} {job : Job},
      Attentive world label → Fails pid label → world.Running pid job →
      world.shared.Unattended id → Attends job id →
      Process.CarriedByOther Attends world pid id := by
    rintro world pid id label job attentive fails running due
      ⟨task, doing, attends⟩
    obtain ⟨other, right, different, ⟨found, runningOther, same⟩, carries⟩ :=
      attentive.survives pid task id fails ⟨job, running, doing⟩ attends due
    exact ⟨other, found, different, runningOther, right, same, carries⟩
  have unchanged : ∀ {store after : Store} {id : String},
      store.SameRows after → after.Unattended id → store.Unattended id := by
    rintro store after id ⟨rows, entries⟩ ⟨confirmed, row, found, waiting⟩
    constructor
    · unfold Store.Confirmed at confirmed ⊢
      rwa [entries] at confirmed
    · exact ⟨row, by rw [← rows, found], waiting⟩
  refine Process.due_carried ?initially ?resumed ?crashed reachable
  case initially =>
    rintro store ⟨_, journal, _⟩ id ⟨confirmed, _⟩
    unfold Store.Confirmed at confirmed
    rw [journal] at confirmed
    cases confirmed
  case resumed =>
    intro world pid choice job after next id reached attentive running resumed
      due
    rcases Job.resume_cases resumed with
      ⟨task, progress, doing, moving, rfl⟩ | ⟨rfl, idle, _⟩
    · have runs : Runs world pid task := ⟨job, running, doing⟩
      rcases Task.resume_cases moving with ⟨raises, rfl, _⟩ | ⟨_, moves⟩
      · have before := unchanged (task.release_sameRows _) due
        by_cases attends : Attends job id
        · exact .inr (.inl
            (byOther attentive ⟨rfl, raises⟩ running before attends))
        · exact .inr (.inr ⟨before, attends⟩)
      · have placed := (attending_holds reached).own runs
        have life := (lifecycle_holds (orderly_of_attentive reached)).own runs
        have proceeds := attentive.proceeds pid choice task rfl runs
        have spared : ∀ operation known, task = .loaded operation id known →
            operation.returns known choice.answer = true →
            world.shared.Every id fun row =>
              row.status = .registered → ¬ Official row := by
          rintro operation known rfl returned
          exact (attentive.reviews pid choice operation id known rfl runs
            returned).1
        rcases moves.unattended proceeds placed life spared due with
          ⟨further, rfl, attends⟩ | ⟨before, other⟩
        · obtain ⟨later, same, carries⟩ := job.next_more further
          exact .inl ⟨later, same, further, carries, attends⟩
        · refine .inr (.inr ⟨before, ?_⟩)
          rintro ⟨task', doing', attends⟩
          have same : task' = task :=
            Option.some.inj (doing'.symm.trans doing)
          exact absurd (same ▸ attends) other
    · refine .inr (.inr ⟨due, ?_⟩)
      rintro ⟨task, doing, _⟩
      rw [idle] at doing
      cases doing
  case crashed =>
    intro world pid job id _ attentive running due
    have before := unchanged (Job.release_sameRows world.shared job) due
    exact ⟨before, byOther attentive rfl running before⟩

/-- When no step is in progress, every confirmed grievance is terminal,
selected by a sweep, or in the hands of an official. -/
theorem confirmed_never_orphaned
    (reachable : (program settings geometry Unregistered).system.ReachableWhen
      Attentive world) (quiet : world.Quiet) (id : String)
    (confirmed : world.shared.Confirmed id) :
    world.shared.Every id Owned := by
  intro row found
  have sound : Sound row := (attending_holds reachable).shared id row found
  apply sound.owned
  intro waiting
  exact (unattended_carried reachable).none_due quiet id
    ⟨confirmed, row, found, waiting⟩

end

/-! ## A run that keeps the condition, and one that does not -/

def proceedsAlone (_ : Store) (job : Job) (_ : Choice) : Bool :=
  job.task.all Task.proceeds

theorem proceeding_of_alone {world : World Store Job} {job : Job}
    {choice : Choice} (only : Process.OnlyRunning world 0 (some job))
    (test : proceedsAlone world.shared job choice = true) :
    Proceeding world (.resume 0 choice) := by
  rintro pid _ task ⟨⟩ runs
  unfold proceedsAlone at test
  rw [task_of_alone only runs] at test
  exact test

/-- A process that is alone is attentive when it neither raises nor gives a
grievance back, and dispatches only what has attempts left. -/
def attendsAlone (store : Store) (job : Job) (choice : Choice) : Bool :=
  proceedsAlone store job choice && choice.answer ≠ .raises &&
    match job.task with
    | some (.loaded operation id known) =>
        !operation.returns known choice.answer &&
          (store.grievances.find id).all
            (·.dispatchAttempts < maxDispatchAttempts)
    | _ => true

theorem attentive_of_alone {world : World Store Job} {job : Job}
    {choice : Choice} (only : Process.OnlyRunning world 0 (some job))
    (test : attendsAlone world.shared job choice = true) :
    Attentive world (.resume 0 choice) := by
  simp only [attendsAlone, Bool.and_eq_true, decide_eq_true_eq] at test
  obtain ⟨⟨proceeds, plain⟩, loads⟩ := test
  constructor
  · exact proceeding_of_alone only proceeds
  · rintro pid task id ⟨_, raises⟩
    exact absurd raises plain
  · rintro pid _ operation id known ⟨⟩ runs returned
    rw [task_of_alone only runs] at loads
    simp [returned] at loads
  · rintro pid _ id known ⟨⟩ _ runs _ _ row found
    rw [task_of_alone only runs] at loads
    simp only [found, Bool.and_eq_true, Option.all_some,
      decide_eq_true_eq] at loads
    exact loads.2

theorem attentive_spawn {world : World Store Job} {pid : Nat}
    {request : Request} : Attentive world (.spawn pid request) := by
  constructor
  · intro _ _ _ same
    cases same
  · intro _ _ _ fails
    exact fails.elim
  · intro _ _ _ _ _ same
    cases same
  · intro _ _ _ _ same
    cases same

theorem confirmed_never_orphaned_refused :
    ∃ world,
      (program defaultSettings flatMap Unregistered).system.ReachableWhen
        Attentive world ∧ world.Quiet ∧ world.shared.Confirmed "g" ∧
      world.shared.Every "g" Owned ∧
      world.shared.statusOf "g" = some .dispatching := by
  have ran : ((program defaultSettings flatMap Unregistered).serial
      attendsAlone
      (.single "g" { reviewedGrievance with priority := some .priority })
      [(.tapConfirm "g",
        [⟨1, .plain⟩, ⟨1, .plain⟩, ⟨1, .plain⟩, ⟨1, .plain⟩, ⟨1, .plain⟩,
         ⟨1, .plain⟩, ⟨2, .refused⟩, ⟨2, .plain⟩])]).map
      (fun store => (decide (.confirmed "g" ∈ store.journal),
        store.statusOf "g")) = some (true, some .dispatching) := by
    decide +kernel
  have initial : (program defaultSettings flatMap Unregistered).initial
      (.single "g" { reviewedGrievance with priority := some .priority }) :=
    Store.single_initial rfl
  obtain ⟨world, reached, quiet, observed⟩ :=
    Process.Program.reachable_serial initial
      (fun _ _ _ _ => attentive_spawn) (fun _ _ _ => attentive_of_alone) ran
  simp only [Prod.mk.injEq, decide_eq_true_eq] at observed
  exact ⟨world, reached, quiet, observed.1,
    confirmed_never_orphaned reached quiet "g" observed.1, observed.2⟩

/-- An exception comes between the confirmation of a priority grievance and its
dispatch. -/
theorem confirmed_orphaned :
    ∃ world,
      (program defaultSettings flatMap Unregistered).system.ReachableWhen
        Proceeding world ∧ world.Quiet ∧ world.shared.Confirmed "g" ∧
      ¬ world.shared.Every "g" Owned := by
  have ran : ((program defaultSettings flatMap Unregistered).serial
      proceedsAlone
      (.single "g" { reviewedGrievance with priority := some .priority })
      [(.confirmDraft "g" "citizen",
        [⟨1, .plain⟩, ⟨1, .plain⟩, ⟨1, .plain⟩, ⟨1, .plain⟩,
         ⟨1, .raises⟩])]).map
      (fun store => (decide (.confirmed "g" ∈ store.journal),
        (store.grievances.find "g").map fun row =>
          (row.status, row.reviewStatus))) =
      some (true, some (.registered, some .citizenReview)) := by
    decide +kernel
  have initial : (program defaultSettings flatMap Unregistered).initial
      (.single "g" { reviewedGrievance with priority := some .priority }) :=
    Store.single_initial rfl
  obtain ⟨world, reached, quiet, observed⟩ :=
    Process.Program.reachable_serial initial
      (fun _ _ _ _ _ _ _ same => by cases same)
      (fun _ _ _ => proceeding_of_alone) ran
  simp only [Prod.mk.injEq, decide_eq_true_eq] at observed
  obtain ⟨confirmed, found⟩ := observed
  obtain ⟨row, lookup, columns⟩ := Option.map_eq_some_iff.mp found
  simp only [Prod.mk.injEq] at columns
  refine ⟨world, reached, quiet, confirmed, ?_⟩
  intro owned
  have official : Owned row := owned row lookup
  unfold Owned at official
  rw [columns.1] at official
  unfold Official at official
  rw [columns.2] at official
  cases official

end JanSetu.Pipeline
