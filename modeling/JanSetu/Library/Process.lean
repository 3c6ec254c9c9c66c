import Mathlib.Logic.Function.Basic
import JanSetu.Library.Transition

/-!
# Interleaved processes over a shared store

A program gives each request a local state and runs it in steps: one step is
one committed transaction, one read whose result the process keeps, or one
return from an external call.  Any number of processes interleave at step
granularity, and each of them can crash between two steps; `release` is what
the store takes back of a crashed process (a lock, an open transaction).

There are two rules.  `Invariant.holds` proves an invariant with a shared part,
a part for each process and a part for each pair of processes, in the style of
Owicki and Gries.  `due_carried` proves that whatever is still due in the store
is carried by some running process, so that nothing is due once all are done.
-/

universe u v w x

structure World (Shared : Type u) (Local : Type v) where
  shared : Shared
  processes : Nat → Option Local

namespace World

variable {Shared : Type u} {Local : Type v}

def start (shared : Shared) : World Shared Local :=
  { shared := shared, processes := fun _ => none }

/-- No process is between two of its steps. -/
def Quiet (world : World Shared Local) : Prop :=
  ∀ pid, world.processes pid = none

def Running (world : World Shared Local) (pid : Nat) (process : Local) :
    Prop :=
  world.processes pid = some process

def put (world : World Shared Local) (shared : Shared) (pid : Nat)
    (process : Option Local) : World Shared Local :=
  { shared := shared
    processes := Function.update world.processes pid process }

@[simp] theorem put_shared (world : World Shared Local) (shared : Shared)
    (pid : Nat) (process : Option Local) :
    (world.put shared pid process).shared = shared :=
  rfl

theorem running_put {world : World Shared Local} {shared : Shared}
    {pid other : Nat} {process : Option Local} {found : Local} :
    (world.put shared pid process).Running other found ↔
      other = pid ∧ process = some found ∨
        other ≠ pid ∧ world.Running other found := by
  by_cases same : other = pid
  · subst same
    simp [Running, put]
  · simp [Running, put, same]

end World

namespace Process

inductive Label (Request : Type u) (Choice : Type v) where
  | spawn (pid : Nat) (request : Request)
  | resume (pid : Nat) (choice : Choice)
  | crash (pid : Nat)
deriving DecidableEq

structure Program (Shared : Type u) (Local : Type v) (Request : Type w)
    (Choice : Type x) where
  initial : Shared → Prop
  start : Request → Local
  /-- One step of a process: the store after it, and the process's next local
  state unless it has returned. -/
  resume : Shared → Local → Choice → Option (Shared × Option Local)
  release : Shared → Local → Shared

variable {Shared : Type u} {Local : Type v} {Request : Type w}
  {Choice : Type x}

def Program.step (program : Program Shared Local Request Choice)
    (world : World Shared Local) :
    Label Request Choice → Option (World Shared Local)
  | .spawn pid request =>
      match world.processes pid with
      | some _ => none
      | none =>
          some (world.put world.shared pid (some (program.start request)))
  | .resume pid choice =>
      match world.processes pid with
      | none => none
      | some process =>
          match program.resume world.shared process choice with
          | none => none
          | some (shared, next) => some (world.put shared pid next)
  | .crash pid =>
      match world.processes pid with
      | none => none
      | some process =>
          some (world.put (program.release world.shared process) pid none)

def Program.system (program : Program Shared Local Request Choice) :
    Transition.System (World Shared Local) (Label Request Choice) :=
  { initial := fun world =>
      ∃ shared, program.initial shared ∧ world = World.start shared
    step := program.step }

variable {program : Program Shared Local Request Choice}
  {allowed : World Shared Local → Label Request Choice → Prop}

/-- Everything a step can be. -/
theorem Program.step_cases {world next : World Shared Local}
    {label : Label Request Choice}
    (taken : program.step world label = some next) :
    (∃ pid request, label = .spawn pid request ∧
      world.processes pid = none ∧
      next = world.put world.shared pid (some (program.start request))) ∨
    (∃ pid choice process shared after, label = .resume pid choice ∧
      world.Running pid process ∧
      program.resume world.shared process choice = some (shared, after) ∧
      next = world.put shared pid after) ∨
    (∃ pid process, label = .crash pid ∧ world.Running pid process ∧
      next = world.put (program.release world.shared process) pid none) := by
  cases label with
  | spawn pid request =>
      cases found : world.processes pid with
      | some process => simp [Program.step, found] at taken
      | none =>
          simp only [Program.step, found, Option.some.injEq] at taken
          exact .inl ⟨pid, request, rfl, found, taken.symm⟩
  | resume pid choice =>
      cases found : world.processes pid with
      | none => simp [Program.step, found] at taken
      | some process =>
          cases resumed : program.resume world.shared process choice with
          | none => simp [Program.step, found, resumed] at taken
          | some result =>
              simp only [Program.step, found, resumed, Option.some.injEq]
                at taken
              exact .inr (.inl ⟨pid, choice, process, result.1, result.2, rfl,
                found, resumed, taken.symm⟩)
  | crash pid =>
      cases found : world.processes pid with
      | none => simp [Program.step, found] at taken
      | some process =>
          simp only [Program.step, found, Option.some.injEq] at taken
          exact .inr (.inr ⟨pid, process, rfl, found, taken.symm⟩)

/-! ## A process on its own -/

/-- The steps of one process with nobody else around, each of which passes a
test. -/
def Program.alone (program : Program Shared Local Request Choice)
    (test : Shared → Local → Choice → Bool) :
    Shared → Local → List Choice → Option (Shared × Option Local)
  | shared, process, [] => some (shared, some process)
  | shared, process, choice :: choices =>
      if test shared process choice then
        match program.resume shared process choice, choices with
        | none, _ => none
        | some (shared, none), [] => some (shared, none)
        | some (_, none), _ => none
        | some (shared, some next), choices =>
            program.alone test shared next choices
      else none

/-- At most one process is running. -/
def OnlyRunning (world : World Shared Local) (pid : Nat)
    (process : Option Local) : Prop :=
  ∀ other, world.processes other = if other = pid then process else none

theorem OnlyRunning.put {world : World Shared Local} {pid : Nat}
    {process : Option Local} (only : OnlyRunning world pid process)
    (shared : Shared) (after : Option Local) :
    OnlyRunning (world.put shared pid after) pid after := by
  intro other
  by_cases same : other = pid
  · simp [World.put, same]
  · simp [World.put, same, only other]

theorem OnlyRunning.eq_of_running {world : World Shared Local}
    {pid other : Nat} {process found : Local}
    (only : OnlyRunning world pid (some process))
    (running : world.Running other found) :
    other = pid ∧ found = process := by
  have here := (only other).symm.trans running
  split at here
  case isTrue same => exact ⟨same, (Option.some.inj here).symm⟩
  case isFalse => cases here

/-- The run of a process that is alone is a run of the program, under a
condition that the test is enough for. -/
theorem Program.runWhen_alone {test : Shared → Local → Choice → Bool}
    {pid : Nat}
    (permitted : ∀ world process choice,
      OnlyRunning world pid (some process) →
      test world.shared process choice = true →
      allowed world (.resume pid choice))
    {world : World Shared Local} {process : Local} {choices : List Choice}
    {shared : Shared} {after : Option Local}
    (only : OnlyRunning world pid (some process))
    (ran : program.alone test world.shared process choices =
      some (shared, after)) :
    ∃ final, program.system.RunWhen allowed world
        (choices.map (Label.resume pid)) final ∧
      final.shared = shared ∧ OnlyRunning final pid after := by
  induction choices generalizing world process with
  | nil =>
      simp only [Program.alone, Option.some.injEq, Prod.mk.injEq] at ran
      obtain ⟨rfl, rfl⟩ := ran
      exact ⟨world, .nil world, rfl, only⟩
  | cons choice choices induction =>
      unfold Program.alone at ran
      split at ran
      case isFalse => cases ran
      case isTrue passes =>
        have found : world.processes pid = some process := by
          rw [only pid, if_pos rfl]
        have allows := permitted world process choice only passes
        -- The step of the process is the step of the world.
        have stepped : ∀ shared next,
            program.resume world.shared process choice =
              some (shared, next) →
            program.system.step world (.resume pid choice) =
              some (world.put shared pid next) := by
          intro shared next resumed
          show program.step world (.resume pid choice) = _
          simp [Program.step, found, resumed]
        split at ran
        case h_1 => cases ran
        case h_2 middle resumed =>
          simp only [Option.some.injEq, Prod.mk.injEq] at ran
          obtain ⟨rfl, rfl⟩ := ran
          exact ⟨_, .cons allows (stepped _ _ resumed) (.nil _), rfl,
            only.put _ _⟩
        case h_3 => cases ran
        case h_4 middle next resumed =>
          obtain ⟨final, runs, same, last⟩ :=
            induction (only.put middle (some next)) ran
          exact ⟨final, .cons allows (stepped _ _ resumed) runs, same, last⟩

/-- Requests served one after the other. -/
def Program.serial (program : Program Shared Local Request Choice)
    (test : Shared → Local → Choice → Bool) :
    Shared → List (Request × List Choice) → Option Shared
  | shared, [] => some shared
  | shared, (request, choices) :: script =>
      match program.alone test shared (program.start request) choices with
      | some (shared, none) => program.serial test shared script
      | _ => none

theorem OnlyRunning.quiet {world : World Shared Local} {pid : Nat}
    (only : OnlyRunning world pid none) : world.Quiet := by
  intro other
  simp [only other]

theorem Program.runWhen_serial {test : Shared → Local → Choice → Bool}
    {script : List (Request × List Choice)}
    (spawns : ∀ world request, world.Quiet →
      request ∈ script.map Prod.fst → allowed world (.spawn 0 request))
    (permitted : ∀ world process choice,
      OnlyRunning world 0 (some process) →
      test world.shared process choice = true →
      allowed world (.resume 0 choice))
    {world : World Shared Local} {shared : Shared} (quiet : world.Quiet)
    (ran : program.serial test world.shared script = some shared) :
    ∃ labels final, program.system.RunWhen allowed world labels final ∧
      final.shared = shared ∧ final.Quiet := by
  induction script generalizing world with
  | nil =>
      simp only [Program.serial, Option.some.injEq] at ran
      exact ⟨[], world, .nil world, ran, quiet⟩
  | cons entry script induction =>
      obtain ⟨request, choices⟩ := entry
      unfold Program.serial at ran
      split at ran
      case h_2 => cases ran
      case h_1 middle served =>
        have spawned : program.system.step world (.spawn 0 request) =
            some (world.put world.shared 0 (some (program.start request))) := by
          show program.step world (.spawn 0 request) = _
          simp [Program.step, quiet 0]
        have idle : OnlyRunning world 0 none := by
          intro other
          simp [quiet other]
        obtain ⟨between, runs, same, only⟩ :=
          Program.runWhen_alone permitted
            (idle.put world.shared (some (program.start request))) served
        have later : ∀ world request, world.Quiet →
            request ∈ script.map Prod.fst →
            allowed world (.spawn 0 request) :=
          fun world request quiet member =>
            spawns world request quiet (.tail _ member)
        obtain ⟨labels, final, further, last, done⟩ :=
          induction later only.quiet (same ▸ ran)
        have begins := spawns world request quiet (.head _)
        exact ⟨_, final, .cons begins spawned (runs.append further), last,
          done⟩

/-- What can be observed after requests served one after the other. -/
theorem Program.reachable_serial {test : Shared → Local → Choice → Bool}
    {start : Shared} {script : List (Request × List Choice)}
    {Observed : Type*} {observe : Shared → Observed} {observed : Observed}
    (initial : program.initial start)
    (spawns : ∀ world request, world.Quiet →
      request ∈ script.map Prod.fst → allowed world (.spawn 0 request))
    (permitted : ∀ world process choice,
      OnlyRunning world 0 (some process) →
      test world.shared process choice = true →
      allowed world (.resume 0 choice))
    (ran : (program.serial test start script).map observe = some observed) :
    ∃ final, program.system.ReachableWhen allowed final ∧ final.Quiet ∧
      observe final.shared = observed := by
  obtain ⟨shared, served, same⟩ := Option.map_eq_some_iff.mp ran
  have quiet : (World.start start : World Shared Local).Quiet :=
    fun _ => rfl
  obtain ⟨labels, final, runs, rfl, done⟩ :=
    Program.runWhen_serial spawns permitted quiet served
  exact ⟨final, ⟨_, labels, ⟨start, initial, rfl⟩, runs⟩, done, same⟩

/-- The same without a condition. -/
theorem Program.reachable_served {start : Shared}
    {script : List (Request × List Choice)} {Observed : Type*}
    {observe : Shared → Observed} {observed : Observed}
    (initial : program.initial start)
    (ran : (program.serial (fun _ _ _ => true) start script).map observe =
      some observed) :
    ∃ final, program.system.Reachable final ∧ final.Quiet ∧
      observe final.shared = observed :=
  Program.reachable_serial initial (fun _ _ _ _ => trivial)
    (fun _ _ _ _ _ => trivial) ran

/-- The same for what is observed in the middle and at the end. -/
theorem Program.runs_serial {test : Shared → Local → Choice → Bool}
    {start : Shared} {first second : List (Request × List Choice)}
    {Observed : Type*} {observe : Shared → Observed}
    {before after : Observed} (initial : program.initial start)
    (spawns : ∀ world request, world.Quiet →
      request ∈ first.map Prod.fst ∨ request ∈ second.map Prod.fst →
      allowed world (.spawn 0 request))
    (permitted : ∀ world process choice,
      OnlyRunning world 0 (some process) →
      test world.shared process choice = true →
      allowed world (.resume 0 choice))
    (ran : ((program.serial test start first).bind fun middle =>
      (program.serial test middle second).map fun final =>
        (observe middle, observe final)) = some (before, after)) :
    ∃ middle final labels, program.system.ReachableWhen allowed middle ∧
      program.system.RunWhen allowed middle labels final ∧ final.Quiet ∧
      observe middle.shared = before ∧ observe final.shared = after := by
  obtain ⟨shared, servedFirst, rest⟩ := Option.bind_eq_some_iff.mp ran
  obtain ⟨last, servedSecond, same⟩ := Option.map_eq_some_iff.mp rest
  simp only [Prod.mk.injEq] at same
  have quiet : (World.start start : World Shared Local).Quiet :=
    fun _ => rfl
  obtain ⟨labels, middle, runs, rfl, idle⟩ :=
    Program.runWhen_serial
      (fun world request quiet member =>
        spawns world request quiet (.inl member))
      permitted quiet servedFirst
  obtain ⟨further, final, continues, rfl, done⟩ :=
    Program.runWhen_serial
      (fun world request quiet member =>
        spawns world request quiet (.inr member))
      permitted idle servedSecond
  exact ⟨middle, final, further, ⟨_, labels, ⟨start, initial, rfl⟩, runs⟩,
    continues, done, same⟩

/-- What is observed of one process between two of its steps and when it has
returned. -/
def Program.watch (program : Program Shared Local Request Choice)
    (test : Shared → Local → Choice → Bool) (start : Shared)
    (request : Request) (first second : List Choice) {Observed : Type*}
    (observe : Shared → Local → Shared → Observed) : Option Observed :=
  (program.alone test start (program.start request) first).bind fun middle =>
    middle.2.bind fun process =>
      (program.alone test middle.1 process second).bind fun final =>
        if final.2.isNone then some (observe middle.1 process final.1)
        else none

theorem Program.runs_alone {test : Shared → Local → Choice → Bool}
    {start : Shared} {request : Request} {first second : List Choice}
    {Observed : Type*} {observe : Shared → Local → Shared → Observed}
    {observed : Observed} (initial : program.initial start)
    (spawns : allowed (World.start start) (.spawn 0 request))
    (permitted : ∀ world process choice,
      OnlyRunning world 0 (some process) →
      test world.shared process choice = true →
      allowed world (.resume 0 choice))
    (ran : program.watch test start request first second observe =
      some observed) :
    ∃ middle process final, program.system.ReachableWhen allowed middle ∧
      middle.Running 0 process ∧
      program.system.RunWhen allowed middle (second.map (Label.resume 0))
        final ∧
      final.Quiet ∧
      observe middle.shared process final.shared = observed := by
  obtain ⟨⟨shared, after⟩, served, rest⟩ := Option.bind_eq_some_iff.mp ran
  obtain ⟨process, is, rest⟩ := Option.bind_eq_some_iff.mp rest
  obtain ⟨⟨last, done⟩, later, same⟩ := Option.bind_eq_some_iff.mp rest
  dsimp only at is later same
  subst is
  split at same
  case isFalse => cases same
  case isTrue returned =>
    have idle : OnlyRunning (World.start start : World Shared Local) 0
        none := by
      intro other
      simp [World.start]
    have spawned : program.system.step (World.start start)
        (.spawn 0 request) =
        some ((World.start start).put start 0
          (some (program.start request))) := rfl
    obtain ⟨middle, runs, rfl, only⟩ :=
      Program.runWhen_alone permitted (idle.put start _) served
    obtain ⟨final, continues, rfl, none⟩ :=
      Program.runWhen_alone permitted only later
    rw [Option.isNone_iff_eq_none.mp returned] at none
    refine ⟨middle, process, final,
      ⟨_, _, ⟨start, initial, rfl⟩, .cons spawns spawned runs⟩, ?_,
      continues, none.quiet, Option.some.inj same⟩
    have here := only 0
    rwa [if_pos rfl] at here

/-! ## Interleaved runs that come to an end -/

def Label.pid : Label Request Choice → Nat
  | .spawn pid _ => pid
  | .resume pid _ => pid
  | .crash pid => pid

/-- A process that no label is about is as it was. -/
theorem Program.processes_of_run {world final : World Shared Local}
    {labels : List (Label Request Choice)} {pid : Nat}
    (ran : program.system.run world labels = some final)
    (others : ∀ label ∈ labels, label.pid ≠ pid) :
    final.processes pid = world.processes pid := by
  induction labels generalizing world with
  | nil =>
      simp only [Transition.System.run, Option.some.injEq] at ran
      rw [ran]
  | cons label labels induction =>
      simp only [Transition.System.run] at ran
      cases taken : program.system.step world label with
      | none => simp [taken] at ran
      | some next =>
          simp only [taken] at ran
          rw [induction ran fun other member => others other (.tail _ member)]
          have different := others label (.head _)
          have stepped : program.step world label = some next := taken
          rcases Program.step_cases stepped with
            ⟨other, request, rfl, _, rfl⟩ |
            ⟨other, choice, process, shared, after, rfl, _, _, rfl⟩ |
            ⟨other, process, rfl, _, rfl⟩ <;>
            exact Function.update_of_ne (Ne.symm different) _ _

/-- What can be observed in the middle and at the end of a run after which none
of its processes is running. -/
theorem Program.runs_quiet {start : Shared} {Observed : Type*} (bound : Nat)
    (observe : Shared → Observed) {before after : Observed}
    {first second : List (Label Request Choice)}
    (initial : program.initial start)
    (bounded : (first ++ second).all (fun label => label.pid < bound) = true)
    (ran : ((program.system.run (World.start start) first).bind fun middle =>
      (program.system.run middle second).map fun final =>
        (observe middle.shared, observe final.shared,
          (List.range bound).all fun pid => (final.processes pid).isNone)) =
      some (before, after, true)) :
    ∃ middle final, program.system.Reachable middle ∧
      program.system.RunWhen Transition.System.Always middle second final ∧
      final.Quiet ∧ observe middle.shared = before ∧
      observe final.shared = after := by
  obtain ⟨middle, ranFirst, rest⟩ := Option.bind_eq_some_iff.mp ran
  obtain ⟨final, ranSecond, same⟩ := Option.map_eq_some_iff.mp rest
  simp only [Prod.mk.injEq] at same
  obtain ⟨observedMiddle, observedFinal, done⟩ := same
  have reached : program.system.Reachable middle :=
    ⟨_, first, ⟨start, initial, rfl⟩,
      Transition.System.runWhen_of_run (fun _ _ _ => trivial) ranFirst⟩
  refine ⟨middle, final, reached,
    Transition.System.runWhen_of_run (fun _ _ _ => trivial) ranSecond, ?_,
    observedMiddle, observedFinal⟩
  intro pid
  by_cases below : pid < bound
  · have none := List.all_eq_true.mp done pid (List.mem_range.mpr below)
    exact Option.isNone_iff_eq_none.mp none
  · have others : ∀ label ∈ first ++ second, label.pid ≠ pid := by
      intro label member same
      have lower := List.all_eq_true.mp bounded label member
      rw [decide_eq_true_eq, same] at lower
      exact below lower
    rw [Program.processes_of_run ranSecond fun label member =>
        others label (List.mem_append_right _ member),
      Program.processes_of_run ranFirst fun label member =>
        others label (List.mem_append_left _ member)]
    rfl

/-! ## The invariant rule -/

structure Invariant (Shared : Type u) (Local : Type v) where
  shared : Shared → Prop
  own : Shared → Local → Prop
  pair : Local → Local → Prop

namespace Invariant

def Holds (invariant : Invariant Shared Local)
    (world : World Shared Local) : Prop :=
  invariant.shared world.shared ∧
    (∀ pid process, world.Running pid process →
      invariant.own world.shared process) ∧
    (∀ first second left right, first ≠ second →
      world.Running first left → world.Running second right →
      invariant.pair left right)

/-- What is asked of the other processes when one process takes a step. -/
def Undisturbed (invariant : Invariant Shared Local)
    (world : World Shared Local) (pid : Nat) (shared : Shared) : Prop :=
  ∀ other process, other ≠ pid → world.Running other process →
    invariant.own shared process

/-- What is asked of the process that takes the step. -/
def Arrives (invariant : Invariant Shared Local)
    (world : World Shared Local) (pid : Nat) (shared : Shared)
    (process : Local) : Prop :=
  invariant.own shared process ∧
    ∀ other right, other ≠ pid → world.Running other right →
      invariant.pair process right ∧ invariant.pair right process

variable {invariant : Invariant Shared Local}

/-- A world whose step kept the shared part, left the other processes
undisturbed and led its own process to where it may be, keeps the invariant. -/
theorem Holds.put {world : World Shared Local} {pid : Nat} {shared : Shared}
    {after : Option Local} (holds : invariant.Holds world)
    (kept : invariant.shared shared)
    (undisturbed : invariant.Undisturbed world pid shared)
    (arrives : ∀ process, after = some process →
      invariant.Arrives world pid shared process) :
    invariant.Holds (world.put shared pid after) := by
  obtain ⟨_, _, pairs⟩ := holds
  refine ⟨kept, ?_, ?_⟩
  · intro other process running
    rcases World.running_put.mp running with
      ⟨same, found⟩ | ⟨different, found⟩
    · exact (arrives process found).1
    · exact undisturbed other process different found
  · intro first second left right distinct leftRunning rightRunning
    rcases World.running_put.mp leftRunning with
      ⟨sameLeft, foundLeft⟩ | ⟨otherLeft, foundLeft⟩
    · rcases World.running_put.mp rightRunning with
        ⟨sameRight, _⟩ | ⟨otherRight, foundRight⟩
      · exact absurd (sameLeft.trans sameRight.symm) distinct
      · exact ((arrives left foundLeft).2 second right otherRight
          foundRight).1
    · rcases World.running_put.mp rightRunning with
        ⟨_, foundRight⟩ | ⟨_, foundRight⟩
      · exact ((arrives right foundRight).2 first left otherLeft
          foundLeft).2
      · exact pairs first second left right distinct foundLeft foundRight

theorem holds
    (initially : ∀ shared, program.initial shared → invariant.shared shared)
    (spawned : ∀ world pid request,
      program.system.ReachableWhen allowed world → invariant.Holds world →
      allowed world (.spawn pid request) →
      invariant.Arrives world pid world.shared (program.start request))
    (resumed : ∀ world pid choice process shared after,
      program.system.ReachableWhen allowed world → invariant.Holds world →
      allowed world (.resume pid choice) →
      world.Running pid process →
      program.resume world.shared process choice = some (shared, after) →
      invariant.shared shared ∧ invariant.Undisturbed world pid shared ∧
        ∀ next, after = some next →
          invariant.Arrives world pid shared next)
    (crashed : ∀ world pid process,
      program.system.ReachableWhen allowed world → invariant.Holds world →
      allowed world (.crash pid) → world.Running pid process →
      invariant.shared (program.release world.shared process) ∧
        invariant.Undisturbed world pid
          (program.release world.shared process))
    {world : World Shared Local}
    (reachable : program.system.ReachableWhen allowed world) :
    invariant.Holds world := by
  refine reachable.invariant ?_ ?_
  · rintro _ ⟨shared, initial, rfl⟩
    refine ⟨initially shared initial, ?_, ?_⟩ <;>
      intros <;> simp_all [World.Running, World.start]
  · intro state label next reached holding permitted taken
    rcases Program.step_cases taken with
      ⟨pid, request, rfl, free, rfl⟩ |
      ⟨pid, choice, process, shared, after, rfl, running, result, rfl⟩ |
      ⟨pid, process, rfl, running, rfl⟩
    · refine holding.put holding.1 ?_ ?_
      · intro other process _ found
        exact holding.2.1 other process found
      · rintro process ⟨⟩
        exact spawned state pid request reached holding permitted
    · obtain ⟨kept, undisturbed, arrives⟩ :=
        resumed state pid choice process shared after reached holding
          permitted running result
      exact holding.put kept undisturbed arrives
    · obtain ⟨kept, undisturbed⟩ :=
        crashed state pid process reached holding permitted running
      exact holding.put kept undisturbed (by simp)

end Invariant

/-! ## The obligation rule -/

/-- Everything due in the store is carried by a running process. -/
def Carried {Obligation : Type*} (Due : Shared → Obligation → Prop)
    (Carries : Local → Obligation → Prop) (world : World Shared Local) :
    Prop :=
  ∀ obligation, Due world.shared obligation →
    ∃ pid process, world.Running pid process ∧ Carries process obligation

/-- Another process than this one carries it too. -/
def CarriedByOther {Obligation : Type*} (Carries : Local → Obligation → Prop)
    (world : World Shared Local) (pid : Nat) (obligation : Obligation) :
    Prop :=
  ∃ other process, other ≠ pid ∧ world.Running other process ∧
    Carries process obligation

/-- A step may make something due only by carrying it on, or while another
carries it, and may drop what it carries only by settling it, or by leaving it
to another that carries it. -/
theorem due_carried {Obligation : Type*} {Due : Shared → Obligation → Prop}
    {Carries : Local → Obligation → Prop}
    (initially : ∀ shared, program.initial shared →
      ∀ obligation, ¬ Due shared obligation)
    (resumed : ∀ world pid choice process shared after obligation,
      program.system.ReachableWhen allowed world →
      allowed world (.resume pid choice) → world.Running pid process →
      program.resume world.shared process choice = some (shared, after) →
      Due shared obligation →
      (∃ next, after = some next ∧ Carries next obligation) ∨
        CarriedByOther Carries world pid obligation ∨
        (Due world.shared obligation ∧ ¬ Carries process obligation))
    (crashed : ∀ world pid process obligation,
      program.system.ReachableWhen allowed world →
      allowed world (.crash pid) → world.Running pid process →
      Due (program.release world.shared process) obligation →
      Due world.shared obligation ∧
        (Carries process obligation →
          CarriedByOther Carries world pid obligation))
    {world : World Shared Local}
    (reachable : program.system.ReachableWhen allowed world) :
    Carried Due Carries world := by
  refine reachable.invariant ?_ ?_
  · rintro _ ⟨shared, initial, rfl⟩ obligation due
    exact absurd due (initially shared initial obligation)
  · intro state label next reached carrying permitted taken obligation due
    -- A carrier other than the process that steps is still running.
    have elsewhere : ∀ pid shared after,
        CarriedByOther Carries state pid obligation →
        ∃ other found, (state.put shared pid after).Running other found ∧
          Carries found obligation := by
      rintro pid shared after ⟨other, found, different, running, carries⟩
      exact ⟨other, found,
        World.running_put.mpr (.inr ⟨different, running⟩), carries⟩
    have byOther : ∀ pid process, state.Running pid process →
        Due state.shared obligation → ¬ Carries process obligation →
        CarriedByOther Carries state pid obligation := by
      intro pid process running before idle
      obtain ⟨other, found, runningOther, carries⟩ :=
        carrying obligation before
      refine ⟨other, found, ?_, runningOther, carries⟩
      rintro rfl
      have is : found = process :=
        Option.some.inj (runningOther.symm.trans running)
      exact idle (is ▸ carries)
    rcases Program.step_cases taken with
      ⟨pid, request, rfl, free, rfl⟩ |
      ⟨pid, choice, process, shared, after, rfl, running, result, rfl⟩ |
      ⟨pid, process, rfl, running, rfl⟩
    · obtain ⟨other, found, runningOther, carries⟩ :=
        carrying obligation due
      refine ⟨other, found, World.running_put.mpr (.inr ⟨?_, runningOther⟩),
        carries⟩
      rintro rfl
      simp [World.Running, free] at runningOther
    · rcases resumed state pid choice process shared after obligation
        reached permitted running result due with
        ⟨further, found, carries⟩ | other | ⟨before, idle⟩
      · exact ⟨pid, further, World.running_put.mpr (.inl ⟨rfl, found⟩),
          carries⟩
      · exact elsewhere pid shared after other
      · exact elsewhere pid shared after (byOther pid process running before
          idle)
    · obtain ⟨before, leaves⟩ :=
        crashed state pid process obligation reached permitted running due
      refine elsewhere pid _ none ?_
      by_cases carries : Carries process obligation
      · exact leaves carries
      · exact byOther pid process running before carries

theorem Carried.none_due {Obligation : Type*}
    {Due : Shared → Obligation → Prop}
    {Carries : Local → Obligation → Prop} {world : World Shared Local}
    (carried : Carried Due Carries world) (quiet : world.Quiet)
    (obligation : Obligation) : ¬ Due world.shared obligation := by
  intro due
  obtain ⟨pid, process, running, _⟩ := carried obligation due
  simp [World.Running, quiet pid] at running

end Process
