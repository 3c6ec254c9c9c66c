import JanSetu.Library.Process

/-!
# Programs with a history

A history keeps what the steps of a program have done, for statements about
where a value in the store comes from.  No step reads it: the runs with a
history are the runs without one.
-/

universe u v w x y

namespace Process

structure Recorded (Shared : Type u) (Note : Type y) where
  shared : Shared
  notes : List Note

variable {Shared : Type u} {Local : Type v} {Request : Type w}
  {Choice : Type x} {Note : Type y}

/-- The program with the notes that its processes take as they step.  `before`
says which notes there may be at the start. -/
def Program.recorded (program : Program Shared Local Request Choice)
    (note : Local → Choice → Option Note)
    (before : Recorded Shared Note → Prop) :
    Program (Recorded Shared Note) Local Request Choice :=
  { initial := fun recorded =>
      program.initial recorded.shared ∧ before recorded
    start := program.start
    resume := fun recorded process choice =>
      (program.resume recorded.shared process choice).map fun result =>
        ({ shared := result.1
           notes := (note process choice).toList ++ recorded.notes },
         result.2)
    release := fun recorded process =>
      { recorded with shared := program.release recorded.shared process } }

/-- The world without its history. -/
def forget (world : World (Recorded Shared Note) Local) :
    World Shared Local :=
  { shared := world.shared.shared, processes := world.processes }

variable {program : Program Shared Local Request Choice}
  {note : Local → Choice → Option Note}
  {before : Recorded Shared Note → Prop}

theorem Program.recorded_resume {recorded after : Recorded Shared Note}
    {process : Local} {choice : Choice} {next : Option Local}
    (resumed : (program.recorded note before).resume recorded process choice =
      some (after, next)) :
    program.resume recorded.shared process choice =
        some (after.shared, next) ∧
      after.notes = (note process choice).toList ++ recorded.notes := by
  obtain ⟨result, ran, same⟩ := Option.map_eq_some_iff.mp resumed
  simp only [Prod.mk.injEq] at same
  obtain ⟨rfl, rfl⟩ := same
  exact ⟨ran, rfl⟩

/-- A step with a history is the step without it. -/
theorem Program.recorded_step
    (world : World (Recorded Shared Note) Local)
    (label : Label Request Choice) :
    ((program.recorded note before).step world label).map forget =
      program.step (forget world) label := by
  cases label with
  | spawn pid request =>
      simp only [Program.step, forget]
      cases world.processes pid with
      | none => simp [World.put, Program.recorded, forget]
      | some process => simp
  | resume pid choice =>
      simp only [Program.step, forget]
      cases world.processes pid with
      | none => simp
      | some process =>
          simp only [Program.recorded]
          cases program.resume world.shared.shared process choice with
          | none => simp
          | some result => simp [World.put, forget]
  | crash pid =>
      simp only [Program.step, forget]
      cases world.processes pid with
      | none => simp
      | some process => simp [World.put, Program.recorded, forget]

theorem Program.recorded_forgets
    {world final : World (Recorded Shared Note) Local}
    {labels : List (Label Request Choice)}
    (runs : (program.recorded note before).system.RunWhen
      Transition.System.Always world labels final) :
    program.system.RunWhen Transition.System.Always (forget world) labels
      (forget final) := by
  induction runs with
  | nil => exact .nil _
  | @cons world next _ label _ _ taken _ induction =>
      apply Transition.System.RunWhen.cons trivial _ induction
      have stepped : (program.recorded note before).step world label =
          some next := taken
      show program.step (forget world) label = some (forget next)
      rw [← Program.recorded_step, stepped,
        Option.map_some]

/-- Any run has the history of its steps. -/
theorem Program.recorded_lifts
    {world : World (Recorded Shared Note) Local} {final : World Shared Local}
    {labels : List (Label Request Choice)}
    (runs : program.system.RunWhen Transition.System.Always (forget world)
      labels final) :
    ∃ further, (program.recorded note before).system.RunWhen
        Transition.System.Always world labels further ∧
      forget further = final := by
  generalize start : forget world = bare at runs
  induction runs generalizing world with
  | nil => exact ⟨world, .nil world, start⟩
  | @cons _ next _ label _ _ taken _ induction =>
      subst start
      have stepped : program.step (forget world) label = some next := taken
      rw [← Program.recorded_step]
        at stepped
      obtain ⟨middle, took, same⟩ := Option.map_eq_some_iff.mp stepped
      obtain ⟨further, rest, last⟩ := induction same
      exact ⟨further, .cons trivial took rest, last⟩

/-- What every note that is taken satisfies, all notes satisfy. -/
theorem Program.notes_every {rule : Note → Prop}
    {allowed : World (Recorded Shared Note) Local →
      Label Request Choice → Prop}
    {world : World (Recorded Shared Note) Local}
    (takes : ∀ process choice taken, note process choice = some taken →
      rule taken)
    (initially : ∀ recorded, before recorded →
      ∀ taken ∈ recorded.notes, rule taken)
    (reached : (program.recorded note before).system.ReachableWhen allowed
      world) : ∀ taken ∈ world.shared.notes, rule taken := by
  let every : World (Recorded Shared Note) Local → Prop := fun world =>
    ∀ taken ∈ world.shared.notes, rule taken
  suffices holds : every world from holds
  refine reached.invariant ?_ ?_
  · rintro _ ⟨recorded, ⟨_, initial⟩, rfl⟩
    exact initially recorded initial
  · intro world label next _ holds _ stepped
    rcases Program.step_cases stepped with
      ⟨pid, request, rfl, _, rfl⟩ |
      ⟨pid, choice, process, shared, after, rfl, _, resumed, rfl⟩ |
      ⟨pid, process, rfl, _, rfl⟩
    · exact holds
    · obtain ⟨_, notes⟩ := Program.recorded_resume resumed
      intro taken member
      rw [World.put_shared, notes] at member
      rcases List.mem_append.mp member with new | old
      · exact takes process choice taken (Option.mem_toList.mp new)
      · exact holds taken old
    · exact holds

/-! ## What the notes say of each other -/

/-- Every note obeys a rule about the notes before it. -/
def Chronicle (rule : List Note → Note → Prop) : List Note → Prop
  | [] => True
  | note :: earlier => rule earlier note ∧ Chronicle rule earlier

theorem Chronicle.mono {rule weaker : List Note → Note → Prop}
    {notes : List Note} (chronicle : Chronicle rule notes)
    (implies : ∀ earlier note, rule earlier note → weaker earlier note) :
    Chronicle weaker notes := by
  induction notes with
  | nil => trivial
  | cons note earlier induction =>
      obtain ⟨obeys, before⟩ := chronicle
      exact ⟨implies earlier note obeys, induction before⟩

theorem Chronicle.obeyed {rule : List Note → Note → Prop}
    {later earlier : List Note} {note : Note}
    (chronicle : Chronicle rule (later ++ note :: earlier)) :
    rule earlier note := by
  induction later with
  | nil => exact chronicle.1
  | cons last later induction => exact induction chronicle.2

end Process
