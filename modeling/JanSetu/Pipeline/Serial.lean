import JanSetu.Pipeline.Checks

/-!
# Serial runs

The runs in which a request comes only when nobody is between two steps.  What
an operation has loaded is then what the table holds when it writes, so that a
write is the operation's own assignment, and its stamp.
-/

namespace JanSetu.Pipeline

open Process (Label)

/-- One process at a time, and only tasks that are served. -/
structure Serial (serves : Task → Bool) (world : World Store Job)
    (label : Label Request Choice) : Prop where
  alone : ∀ pid request, label = .spawn pid request → world.Quiet
  serves : ∀ pid choice task, label = .resume pid choice →
    Runs world pid task → serves task = true

theorem Serial.of_quiet {serves : Task → Bool} {world : World Store Job}
    {pid : Nat} {request : Request} (quiet : world.Quiet) :
    Serial serves world (.spawn pid request) := by
  constructor
  · exact fun _ _ _ => quiet
  · intro _ _ _ same
    cases same

theorem Serial.of_alone {serves : Task → Bool} {world : World Store Job}
    {job : Job} {choice : Choice}
    (only : Process.OnlyRunning world 0 (some job))
    (served : job.task.all serves = true) :
    Serial serves world (.resume 0 choice) := by
  constructor
  · intro _ _ same
    cases same
  · rintro pid _ task ⟨⟩ runs
    rw [task_of_alone only runs] at served
    exact served

/-! ## A write of what the table holds -/

theorem writeBack_self (row new : Grievance) :
    row.writeBack row new = new := by
  simp only [Grievance.writeBack, Column.write_self]

/-- A flush over the row that is known sets what is new, and the stamp. -/
theorem set_over (row : Grievance) (now : Time)
    (change : Grievance → Grievance) :
    (RowSession.set { known := row, current := row } now change).current =
        row ∨
      (RowSession.set { known := row, current := row } now change).current =
        { change row with updatedAt := now } := by
  unfold RowSession.set
  dsimp only
  split
  · exact .inl rfl
  · exact .inr (writeBack_self _ _)

/-! ## The process is alone -/

/-- What was loaded is what the table holds, and nobody else is running. -/
def serial : Process.Invariant Store Job :=
  { shared := fun _ => True
    own := fun store job => ∀ operation id known,
      job.task = some (.loaded operation id known) →
      store.grievances.find id = some known
    pair := fun _ _ => False }

section

variable {settings : Settings} {geometry : Geometry}
  {admissible : Grievance → Prop} {world : World Store Job}
  {allowed : World Store Job → Label Request Choice → Prop}

/-- A step that goes on with a row it has loaded has just loaded it. -/
theorem Task.Moves.loads {store after : Store} {now : Time} {answer : Answer}
    {task : Task} {operation : Operation} {id : String} {known : Grievance}
    (moves : task.Moves settings geometry store now answer after
      (.more (.loaded operation id known))) :
    after.grievances.find id = some known := by
  cases moves.leads with
  | created found => exact found
  | loaded found => exact found

theorem Job.next_task {job next : Job} {progress : Progress}
    {operation : Operation} {id : String} {known : Grievance}
    (arrived : job.next progress = some next)
    (doing : next.task = some (.loaded operation id known)) :
    progress = .more (.loaded operation id known) := by
  have onward : ∀ ids, Job.sweepNext ids = some next → False := by
    intro ids same
    cases ids with
    | nil => cases same
    | cons => cases same; cases doing
  unfold Job.next at arrived
  split at arrived
  case h_1 task =>
    split at arrived <;> cases arrived <;> cases doing <;> rfl
  case h_2 => exact (onward _ arrived).elim

theorem serial_holds
    (alone : ∀ world pid request, allowed world (.spawn pid request) →
      world.Quiet)
    (reachable : (program settings geometry admissible).system.ReachableWhen
      allowed world) : serial.Holds world := by
  refine Process.Invariant.holds (fun _ _ => trivial) ?spawned ?resumed ?crashed
    reachable
  case spawned =>
    intro world pid request _ _ permitted
    refine ⟨?_, ?_⟩
    · intro operation id known doing
      cases request <;> cases doing
    · intro other right _ running
      unfold World.Running at running
      rw [alone world pid request permitted other] at running
      cases running
  case resumed =>
    intro world pid choice job after next _ holding _ running resumed
    have nobody : ∀ other right, other ≠ pid → ¬ world.Running other right :=
      fun other right different runningOther =>
        holding.2.2 pid other job right (Ne.symm different) running
          runningOther
    refine ⟨trivial, ?_, ?_⟩
    · exact fun other right different runningOther =>
        (nobody other right different runningOther).elim
    · intro further arrived
      refine ⟨?_, fun other right different runningOther =>
        (nobody other right different runningOther).elim⟩
      intro operation id known doing
      rcases Job.resume_cases resumed with
        ⟨task, progress, _, moving, same⟩ |
        ⟨_, _, _, _, ids, same, _⟩
      · rw [same] at arrived
        have loads := Job.next_task arrived doing
        subst loads
        rcases Task.resume_cases moving with ⟨_, _, more⟩ | ⟨_, moves⟩
        · cases more
        · exact moves.loads
      · rw [same] at arrived
        cases ids with
        | nil => cases arrived
        | cons => cases arrived; cases doing
  case crashed =>
    intro world pid job _ holding _ running
    exact ⟨trivial, fun other right different runningOther =>
      (holding.2.2 pid other job right (Ne.symm different) running
        runningOther).elim⟩

/-- In a serial run an operation has loaded what the table holds. -/
theorem Serial.stored {serves : Task → Bool}
    (reachable : (program settings geometry admissible).system.ReachableWhen
      allowed world)
    (serially : ∀ world label, allowed world label →
      Serial serves world label)
    {pid : Nat} {operation : Operation} {id : String} {known : Grievance}
    (runs : Runs world pid (.loaded operation id known)) :
    world.shared.grievances.find id = some known := by
  have holding := serial_holds
    (fun world pid request permitted =>
      (serially world _ permitted).alone pid request rfl) reachable
  obtain ⟨job, running, doing⟩ := runs
  exact holding.2.1 pid job running operation id known doing

/-- Nobody else is between two steps. -/
theorem Serial.nobody {serves : Task → Bool}
    (reachable : (program settings geometry admissible).system.ReachableWhen
      allowed world)
    (serially : ∀ world label, allowed world label →
      Serial serves world label)
    {pid other : Nat} {task right : Task} (different : other ≠ pid)
    (runs : Runs world pid task) : ¬ Runs world other right := by
  have holding := serial_holds
    (fun world pid request permitted =>
      (serially world _ permitted).alone pid request rfl) reachable
  obtain ⟨job, running, _⟩ := runs
  rintro ⟨otherJob, otherRunning, _⟩
  exact holding.2.2 pid other job otherJob (Ne.symm different) running
    otherRunning

end

end JanSetu.Pipeline
