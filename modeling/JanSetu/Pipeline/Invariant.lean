import JanSetu.Pipeline.Steps

/-!
# Invariants of the pipeline's runs

The rule of `Process.Invariant` for this program, in terms of tasks: what is
known of a task, of a grievance that a sweep has still to dispatch, and of two
tasks at once.  An exception and a crash only give back locks, so that an
invariant of rows and journal has nothing to show for them.
-/

namespace JanSetu.Pipeline

open Process (Label)

/-- The process is in the middle of this task. -/
def Runs (world : World Store Job) (pid : Nat) (task : Task) : Prop :=
  ∃ job, world.Running pid job ∧ job.task = some task

theorem Runs.unique {world : World Store Job} {pid : Nat}
    {task other : Task} (first : Runs world pid task)
    (second : Runs world pid other) : task = other := by
  obtain ⟨job, running, same⟩ := first
  obtain ⟨job', running', same'⟩ := second
  have jobs : job = job' := Option.some.inj (running.symm.trans running')
  subst jobs
  exact Option.some.inj (same.symm.trans same')

/-- Every task is that of the process that is alone. -/
theorem task_of_alone {world : World Store Job} {pid other : Nat} {job : Job}
    {task : Task} (only : Process.OnlyRunning world pid (some job))
    (runs : Runs world other task) : job.task = some task := by
  obtain ⟨found, running, doing⟩ := runs
  obtain ⟨-, rfl⟩ := only.eq_of_running running
  exact doing

/-- Nothing of a store but its rows and its journal. -/
def Store.SameRows (store after : Store) : Prop :=
  after.grievances = store.grievances ∧ after.journal = store.journal

theorem Task.release_sameRows (store : Store) (task : Task) :
    store.SameRows (task.release store) := by
  cases task <;> exact ⟨rfl, rfl⟩

theorem Job.release_sameRows (store : Store) (job : Job) :
    store.SameRows (job.release store) := by
  unfold Job.release
  cases job.task with
  | none => exact ⟨rfl, rfl⟩
  | some task => exact task.release_sameRows store

/-- What a grievance has stays through a step of the world, when the task that
moves keeps it. -/
theorem step_has {settings : Settings} {geometry : Geometry}
    {admissible : Grievance → Prop} {world next : World Store Job}
    {label : Label Request Choice} {id : String}
    {property : Grievance → Prop}
    (taken : (program settings geometry admissible).system.step world label =
      some next)
    (moved : ∀ pid choice task after progress,
      label = .resume pid choice → Runs world pid task →
      choice.answer ≠ .raises →
      task.Moves settings geometry world.shared choice.now choice.answer
        after progress →
      after.Has id property)
    (before : world.shared.Has id property) :
    next.shared.Has id property := by
  have same : ∀ after, world.shared.SameRows after →
      after.Has id property := by
    intro after rows
    obtain ⟨row, found, holds⟩ := before
    exact ⟨row, by rw [rows.1, found], holds⟩
  rcases Process.Program.step_cases taken with
    ⟨pid, request, rfl, _, rfl⟩ |
    ⟨pid, choice, job, shared, after, rfl, running, resumed, rfl⟩ |
    ⟨pid, job, rfl, running, rfl⟩
  · exact before
  · rcases Job.resume_cases resumed with
      ⟨task, progress, doing, moving, _⟩ | ⟨rfl, _⟩
    · rcases Task.resume_cases moving with ⟨_, rfl, _⟩ | ⟨plain, moves⟩
      · exact same _ (task.release_sameRows world.shared)
      · exact moved pid choice task shared progress rfl
          ⟨job, running, doing⟩ plain moves
    · exact before
  · exact same _ (Job.release_sameRows world.shared job)

/-- A step of a process that has a task is one of the task. -/
theorem step_task {settings : Settings} {geometry : Geometry}
    {admissible : Grievance → Prop} {world next : World Store Job}
    {pid : Nat} {choice : Choice} {task : Task}
    (taken : (program settings geometry admissible).system.step world
      (.resume pid choice) = some next)
    (runs : Runs world pid task) :
    ∃ progress, task.resume settings geometry world.shared choice =
      some (next.shared, progress) := by
  have stepped : (program settings geometry admissible).step world
      (.resume pid choice) = some next := taken
  rcases Process.Program.step_cases stepped with
    ⟨_, _, same, _⟩ |
    ⟨_, _, job, shared, after, same, running, resumed, rfl⟩ |
    ⟨_, _, same, _⟩
  · cases same
  · cases same
    rcases Job.resume_cases resumed with
      ⟨other, progress, doing, moving, _⟩ | ⟨_, idle, _⟩
    · have same := runs.unique ⟨job, running, doing⟩
      subst same
      exact ⟨progress, moving⟩
    · obtain ⟨other, runningOther, doing⟩ := runs
      have same : other = job :=
        Option.some.inj (runningOther.symm.trans running)
      subst same
      rw [idle] at doing
      cases doing
  · cases same

structure TaskInvariant where
  shared : Store → Prop
  own : Store → Task → Prop
  waiting : Store → String → Prop
  pair : Task → Task → Prop

namespace TaskInvariant

def ofJobs (invariant : TaskInvariant) : Process.Invariant Store Job :=
  { shared := invariant.shared
    own := fun store job =>
      (∀ task, job.task = some task → invariant.own store task) ∧
        ∀ id ∈ job.rest, invariant.waiting store id
    pair := fun left right =>
      ∀ task other, left.task = some task → right.task = some other →
        invariant.pair task other }

def Holds (invariant : TaskInvariant) (world : World Store Job) : Prop :=
  invariant.ofJobs.Holds world

/-- What is asked of the task a process enters. -/
def Enters (invariant : TaskInvariant) (world : World Store Job) (pid : Nat)
    (store : Store) (task : Task) : Prop :=
  invariant.own store task ∧
    ∀ other right, other ≠ pid → Runs world other right →
      invariant.pair task right ∧ invariant.pair right task

/-- What is asked of a step. -/
structure Kept (invariant : TaskInvariant) (world : World Store Job)
    (pid : Nat) (after : Store) (progress : Progress) : Prop where
  shared : invariant.shared after
  others : ∀ other task, other ≠ pid → Runs world other task →
    invariant.own world.shared task → invariant.own after task
  waiting : ∀ id, invariant.waiting world.shared id →
    invariant.waiting after id
  enters : ∀ task, progress = .more task →
    invariant.Enters world pid after task

variable {invariant : TaskInvariant} {settings : Settings}
  {geometry : Geometry} {admissible : Grievance → Prop}
  {allowed : World Store Job → Label Request Choice → Prop}
  {world : World Store Job}

theorem Holds.shared (holds : invariant.Holds world) :
    invariant.shared world.shared :=
  holds.1

theorem Holds.own (holds : invariant.Holds world) {pid : Nat} {task : Task}
    (runs : Runs world pid task) : invariant.own world.shared task := by
  obtain ⟨job, running, same⟩ := runs
  exact (holds.2.1 pid job running).1 task same

theorem Holds.pair (holds : invariant.Holds world) {first second : Nat}
    {left right : Task} (distinct : first ≠ second)
    (leftRuns : Runs world first left) (rightRuns : Runs world second right) :
    invariant.pair left right := by
  obtain ⟨leftJob, leftRunning, leftSame⟩ := leftRuns
  obtain ⟨rightJob, rightRunning, rightSame⟩ := rightRuns
  exact holds.2.2 first second leftJob rightJob distinct leftRunning
    rightRunning left right leftSame rightSame

/-- The process a step leads to, when its task enters and what it has still to
dispatch waits. -/
theorem arrives_next {pid : Nat} {store : Store} {job next : Job}
    {progress : Progress}
    (dispatches : ∀ id, invariant.waiting store id →
      invariant.Enters world pid store (.opened .dispatch id))
    (enters : ∀ task, progress = .more task →
      invariant.Enters world pid store task)
    (rest : ∀ id ∈ job.rest, invariant.waiting store id)
    (arrived : job.next progress = some next) :
    invariant.ofJobs.Arrives world pid store next := by
  have enough : (∀ task, next.task = some task →
        invariant.Enters world pid store task) →
      (∀ id ∈ next.rest, invariant.waiting store id) →
      invariant.ofJobs.Arrives world pid store next := by
    intro tasks waits
    refine ⟨⟨fun task same => (tasks task same).1, waits⟩, ?_⟩
    intro other job' different running
    constructor
    · intro task right same same'
      exact ((tasks task same).2 other right different
        ⟨job', running, same'⟩).1
    · intro right task same' same
      exact ((tasks task same).2 other right different
        ⟨job', running, same'⟩).2
  have onward : ∀ ids, Job.sweepNext ids = some next →
      (∀ id ∈ ids, invariant.waiting store id) →
      invariant.ofJobs.Arrives world pid store next := by
    intro ids same waits
    cases ids with
    | nil => cases same
    | cons id ids =>
        cases same
        apply enough
        · intro task same
          cases same
          exact dispatches id (waits id (.head _))
        · intro other member
          exact waits other (.tail _ member)
  unfold Job.next at arrived
  split at arrived
  case h_1 task =>
    have entered := enters task rfl
    split at arrived
    case h_1 current ids =>
      cases arrived
      exact enough (fun _ same => Option.some.inj same ▸ entered) rest
    case h_2 =>
      cases arrived
      apply enough (fun _ same => Option.some.inj same ▸ entered)
      intro id member
      cases member
  case h_2 => exact onward _ arrived rest

theorem arrives_sweep {pid : Nat} {store : Store} {ids : List String}
    {next : Job}
    (dispatches : ∀ id, invariant.waiting store id →
      invariant.Enters world pid store (.opened .dispatch id))
    (waits : ∀ id ∈ ids, invariant.waiting store id)
    (arrived : Job.sweepNext ids = some next) :
    invariant.ofJobs.Arrives world pid store next := by
  cases ids with
  | nil => cases arrived
  | cons id ids =>
      let job := Job.sweeping (.opened .dispatch id) (id :: ids)
      have rest : ∀ other ∈ job.rest, invariant.waiting store other := waits
      have through : job.next .finished = some next := arrived
      apply arrives_next dispatches _ rest through
      intro task same
      cases same

theorem holds
    (initially : ∀ store,
      (program settings geometry admissible).initial store →
      invariant.shared store)
    (sameRows : ∀ store after, store.SameRows after →
      (invariant.shared store → invariant.shared after) ∧
        (∀ task, invariant.own store task → invariant.own after task) ∧
        ∀ id, invariant.waiting store id → invariant.waiting after id)
    (started : ∀ world pid request task,
      (program settings geometry admissible).system.ReachableWhen allowed
        world →
      invariant.Holds world → allowed world (.spawn pid request) →
      (Job.start request).task = some task →
      invariant.Enters world pid world.shared task)
    (selected : ∀ store test limit ids now,
      invariant.shared store → store.Selects test limit ids →
      (test = Store.expiredWindow now ∨ test = Store.stuckDispatching) →
      ∀ id ∈ ids, invariant.waiting store id)
    (dispatches : ∀ (world : World Store Job) pid store id,
      invariant.waiting store id →
      invariant.Enters world pid store (.opened .dispatch id))
    (moved : ∀ world pid task choice after progress,
      (program settings geometry admissible).system.ReachableWhen allowed
        world →
      invariant.Holds world → allowed world (.resume pid choice) →
      Runs world pid task → choice.answer ≠ .raises →
      task.Moves settings geometry world.shared choice.now choice.answer
        after
        progress →
      invariant.Kept world pid after progress)
    (reachable : (program settings geometry admissible).system.ReachableWhen
      allowed world) :
    invariant.Holds world := by
  refine Process.Invariant.holds initially ?spawned ?resumed ?crashed reachable
  case spawned =>
    intro world pid request reached holding permitted
    refine ⟨⟨?_, ?_⟩, ?_⟩
    · intro task same
      exact (started world pid request task reached holding permitted
        same).1
    · intro id member
      have none : (Job.start request).rest = [] := by cases request <;> rfl
      have empty : id ∈ ([] : List String) := none ▸ member
      cases empty
    · intro other job different running
      constructor
      · intro task right same same'
        exact ((started world pid request task reached holding permitted
          same).2 other right different ⟨job, running, same'⟩).1
      · intro right task same' same
        exact ((started world pid request task reached holding permitted
          same).2 other right different ⟨job, running, same'⟩).2
  case resumed =>
    intro world pid choice job after next reached holding permitted running
      resumed
    have owned := (holding.2.1 pid job running).2
    -- A step that leaves rows and journal alone leaves everybody undisturbed.
    have unchanged : world.shared.SameRows after →
        invariant.shared after ∧
          invariant.ofJobs.Undisturbed world pid after := by
      intro same
      obtain ⟨shared, own, waiting⟩ := sameRows _ _ same
      refine ⟨shared holding.1, ?_⟩
      intro other found different runningOther
      have before := holding.2.1 other found runningOther
      exact ⟨fun task same => own task (before.1 task same),
        fun id member => waiting id (before.2 id member)⟩
    rcases Job.resume_cases resumed with
      ⟨task, progress, doing, moving, rfl⟩ |
      ⟨rfl, _, test, limit, ids, rfl, selects, which⟩
    · rcases Task.resume_cases moving with
        ⟨_, rfl, rfl⟩ | ⟨plain, moves⟩
      · have same := task.release_sameRows world.shared
        obtain ⟨shared, undisturbed⟩ := unchanged same
        refine ⟨shared, undisturbed, ?_⟩
        intro next arrived
        refine arrives_next (dispatches world pid _) ?_ ?_ arrived
        · intro task same
          cases same
        · intro id member
          exact (sameRows _ _ same).2.2 id (owned id member)
      · have kept := moved world pid task choice after progress reached
          holding permitted ⟨job, running, doing⟩ plain moves
        refine ⟨kept.shared, ?_, ?_⟩
        · intro other found different runningOther
          have before := holding.2.1 other found runningOther
          constructor
          · intro task same
            exact kept.others other task different
              ⟨found, runningOther, same⟩ (before.1 task same)
          · intro id member
            exact kept.waiting id (before.2 id member)
        · intro next arrived
          refine arrives_next (dispatches world pid after) kept.enters ?_
            arrived
          intro id member
          exact kept.waiting id (owned id member)
    · obtain ⟨shared, undisturbed⟩ := unchanged ⟨rfl, rfl⟩
      refine ⟨shared, undisturbed, ?_⟩
      intro next arrived
      refine arrives_sweep (dispatches world pid _) ?_ arrived
      intro id member
      rcases selects with rfl | selects
      · cases member
      · exact selected _ test limit ids choice.now shared selects which id
          member
  case crashed =>
    intro world pid job reached holding permitted running
    obtain ⟨shared, own, waiting⟩ :=
      sameRows _ _ (Job.release_sameRows world.shared job)
    refine ⟨shared holding.1, ?_⟩
    intro other found different runningOther
    have before := holding.2.1 other found runningOther
    exact ⟨fun task same => own task (before.1 task same),
      fun id member => waiting id (before.2 id member)⟩

end TaskInvariant

end JanSetu.Pipeline
