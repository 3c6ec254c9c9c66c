import JanSetu.Library.Process
import Mathlib.Data.Option.Basic

/-!
# What callers are told

A run of a program with the responses that its processes give to their callers.
Two worlds that a relation between stores and one between processes cannot tell
apart let the callers be told the same, whatever the order of the steps: the
rule asks for what one step of a process preserves.
-/

universe u v w x y

namespace Process

variable {Shared : Type u} {Local : Type v} {Request : Type w}
  {Choice : Type x} {Response : Type y}

/-- What the process that takes a step tells its caller. -/
def tells (respond : Shared → Local → Choice → Option Response)
    (world : World Shared Local) :
    Label Request Choice → Option (Nat × Response)
  | .resume pid choice =>
      (world.processes pid).bind fun process =>
        (respond world.shared process choice).map fun response =>
          (pid, response)
  | _ => none

variable {program : Program Shared Local Request Choice}
  {respond : Shared → Local → Choice → Option Response}
  {allowed : World Shared Local → Label Request Choice → Prop}

variable {stores : Shared → Shared → Prop} {processes : Local → Local → Prop}

/-- The stores are related, and so is each process with its counterpart. -/
structure Related (stores : Shared → Shared → Prop)
    (processes : Local → Local → Prop) (left right : World Shared Local) :
    Prop where
  shared : stores left.shared right.shared
  process : ∀ pid,
    Option.Rel processes (left.processes pid) (right.processes pid)

theorem Related.put {left right : World Shared Local}
    (related : Related stores processes left right) {pid : Nat}
    {leftShared rightShared : Shared} {leftAfter rightAfter : Option Local}
    (shared : stores leftShared rightShared)
    (after : Option.Rel processes leftAfter rightAfter) :
    Related stores processes (left.put leftShared pid leftAfter)
      (right.put rightShared pid rightAfter) := by
  refine ⟨shared, fun other => ?_⟩
  by_cases same : other = pid
  · subst same
    simpa [World.put] using after
  · simpa [World.put, same] using related.process other

/-- Worlds without processes. -/
theorem Related.start {left right : Shared} (shared : stores left right) :
    Related stores processes (World.start left) (World.start right) :=
  ⟨shared, fun _ => .none⟩

/-- What a step of one of two related processes may be. -/
structure Matched (respond : Shared → Local → Choice → Option Response)
    (allowed : World Shared Local → Label Request Choice → Prop)
    (stores : Shared → Shared → Prop) (processes : Local → Local → Prop)
    (program : Program Shared Local Request Choice) : Prop where
  spawned : ∀ left right pid request, Related stores processes left right →
    allowed left (.spawn pid request) →
    allowed right (.spawn pid request) ∧
      processes (program.start request) (program.start request)
  resumed : ∀ left right pid choice process other,
    Related stores processes left right →
    allowed left (.resume pid choice) →
    left.Running pid process → right.Running pid other →
    stores left.shared right.shared → processes process other →
    allowed right (.resume pid choice) ∧
      respond left.shared process choice =
        respond right.shared other choice ∧
      Option.Rel
        (fun one two => stores one.1 two.1 ∧
          Option.Rel processes one.2 two.2)
        (program.resume left.shared process choice)
        (program.resume right.shared other choice)
  crashed : ∀ left right pid process other,
    allowed left (.crash pid) → stores left.shared right.shared →
    processes process other →
    allowed right (.crash pid) ∧
      stores (program.release left.shared process)
        (program.release right.shared other)

theorem Related.free {left right : World Shared Local} {pid : Nat}
    (related : Related stores processes left right)
    (free : left.processes pid = none) : right.processes pid = none := by
  have both := related.process pid
  rw [free] at both
  generalize right.processes pid = found at both
  cases both
  rfl

theorem Related.running {left right : World Shared Local} {pid : Nat}
    {process : Local} (related : Related stores processes left right)
    (running : left.Running pid process) :
    ∃ other, right.Running pid other ∧ processes process other := by
  have both := related.process pid
  rw [running] at both
  generalize counterpart : right.processes pid = found at both
  cases both with
  | some matched => exact ⟨_, counterpart, matched⟩

/-- One step of the one world is a step of the other, and its caller is told
the same. -/
theorem Matched.step {left right next : World Shared Local}
    {label : Label Request Choice}
    (matched : Matched respond allowed stores processes program)
    (related : Related stores processes left right)
    (permitted : allowed left label)
    (taken : program.step left label = some next) :
    allowed right label ∧
      tells respond left label = tells respond right label ∧
      ∃ other, program.step right label = some other ∧
        Related stores processes next other := by
  rcases Program.step_cases taken with
    ⟨pid, request, rfl, free, rfl⟩ |
    ⟨pid, choice, process, shared, after, rfl, running, resumed, rfl⟩ |
    ⟨pid, process, rfl, running, rfl⟩
  · obtain ⟨also, begins⟩ :=
      matched.spawned left right pid request related permitted
    refine ⟨also, rfl, _, ?_, related.put related.shared (.some begins)⟩
    simp only [Program.step, related.free free]
  · obtain ⟨other, runs, alike⟩ := related.running running
    obtain ⟨also, told, results⟩ := matched.resumed left right pid choice
      process other related permitted running runs related.shared alike
    rw [resumed] at results
    generalize further : program.resume right.shared other choice = result
      at results
    cases results with
    | some both =>
        refine ⟨also, ?_, _, ?_, related.put both.1 both.2⟩
        · have first : left.processes pid = some process := running
          have second : right.processes pid = some other := runs
          simp only [tells, first, second, Option.bind_some, told]
        · have second : right.processes pid = some other := runs
          simp only [Program.step, second, further]
  · obtain ⟨other, runs, alike⟩ := related.running running
    obtain ⟨also, released⟩ := matched.crashed left right pid process other
      permitted related.shared alike
    refine ⟨also, rfl, _, ?_, related.put released .none⟩
    have second : right.processes pid = some other := runs
    simp only [Program.step, second]

end Process
