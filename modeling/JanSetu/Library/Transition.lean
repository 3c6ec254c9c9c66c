import Mathlib.Tactic.TypeStar

/-!
# Labelled transition systems

A system is a set of initial states and a partial step function: a label holds
every choice the environment makes, so that a step is computable and a run can
be evaluated.  Runs are taken under a condition on the state before each step;
the unconditional runs are those under the condition that always holds.
-/

namespace Transition

universe u v

structure System (State : Type u) (Label : Type v) where
  initial : State → Prop
  step : State → Label → Option State

namespace System

variable {State : Type u} {Label : Type v}

/-- The run of a list of labels, or `none` when one of them is not enabled. -/
def run (system : System State Label) : State → List Label → Option State
  | state, [] => some state
  | state, label :: labels =>
      match system.step state label with
      | none => none
      | some next => system.run next labels

/-- The runs whose every step satisfies `allowed` in the state before it. -/
inductive RunWhen (system : System State Label)
    (allowed : State → Label → Prop) :
    State → List Label → State → Prop where
  | nil (state : State) : RunWhen system allowed state [] state
  | cons {state next final : State} {label : Label} {labels : List Label} :
      allowed state label →
      system.step state label = some next →
      RunWhen system allowed next labels final →
      RunWhen system allowed state (label :: labels) final

/-- The condition every step satisfies. -/
def Always : State → Label → Prop :=
  fun _ _ => True

def ReachableWhen (system : System State Label)
    (allowed : State → Label → Prop) (state : State) : Prop :=
  ∃ start labels, system.initial start ∧
    system.RunWhen allowed start labels state

def Reachable (system : System State Label) (state : State) : Prop :=
  system.ReachableWhen Always state

variable {system : System State Label} {allowed : State → Label → Prop}

theorem runWhen_of_run {state final : State} {labels : List Label}
    (permitted : ∀ label ∈ labels, ∀ state, allowed state label)
    (result : system.run state labels = some final) :
    system.RunWhen allowed state labels final := by
  induction labels generalizing state with
  | nil =>
      simp only [run, Option.some.injEq] at result
      subst result
      exact .nil _
  | cons label labels induction =>
      simp only [run] at result
      cases taken : system.step state label with
      | none => simp [taken] at result
      | some next =>
          simp only [taken] at result
          have rest : ∀ label ∈ labels, ∀ state, allowed state label :=
            fun label member => permitted label (.tail _ member)
          exact .cons (permitted label (.head _) state) taken
            (induction rest result)

/-- Whether every step of a computed run is allowed. -/
def allows (system : System State Label) (allowed : State → Label → Prop)
    [∀ state label, Decidable (allowed state label)] :
    State → List Label → Bool
  | _, [] => true
  | state, label :: labels =>
      decide (allowed state label) &&
        match system.step state label with
        | none => true
        | some next => system.allows allowed next labels

/-- A computed run under a condition that depends on the states. -/
theorem runWhen_of_allows [∀ state label, Decidable (allowed state label)]
    {state final : State} {labels : List Label}
    (permitted : system.allows allowed state labels = true)
    (result : system.run state labels = some final) :
    system.RunWhen allowed state labels final := by
  induction labels generalizing state with
  | nil =>
      simp only [run, Option.some.injEq] at result
      subst result
      exact .nil _
  | cons label labels induction =>
      simp only [run] at result
      simp only [allows, Bool.and_eq_true, decide_eq_true_eq] at permitted
      cases taken : system.step state label with
      | none => simp [taken] at result
      | some next =>
          simp only [taken] at result permitted
          exact .cons permitted.1 taken (induction permitted.2 result)

/-- What can be observed at the end of a computed run is observed in some
reachable state, under a condition that the run's labels meet in any state. -/
theorem reachableWhen_of_run_map {Observed : Type*}
    {observe : State → Observed} {start : State} {labels : List Label}
    {observed : Observed} (initial : system.initial start)
    (permitted : ∀ label ∈ labels, ∀ state, allowed state label)
    (result : (system.run start labels).map observe = some observed) :
    ∃ final, system.ReachableWhen allowed final ∧
      observe final = observed := by
  obtain ⟨final, ran, same⟩ := Option.map_eq_some_iff.mp result
  exact ⟨final, ⟨start, labels, initial, runWhen_of_run permitted ran⟩, same⟩

theorem reachable_of_run_map {Observed : Type*} {observe : State → Observed}
    {start : State} {labels : List Label} {observed : Observed}
    (initial : system.initial start)
    (result : (system.run start labels).map observe = some observed) :
    ∃ final, system.Reachable final ∧ observe final = observed :=
  reachableWhen_of_run_map initial (fun _ _ _ => trivial) result

/-- The same for what is observed in the middle and at the end of a run. -/
theorem runs_of_run_map {Observed : Type*} {observe : State → Observed}
    {start : State} {first second : List Label} {before after : Observed}
    (initial : system.initial start)
    (result : ((system.run start first).bind fun middle =>
      (system.run middle second).map fun final =>
        (observe middle, observe final)) = some (before, after)) :
    ∃ middle final, system.Reachable middle ∧
      system.RunWhen Always middle second final ∧
      observe middle = before ∧ observe final = after := by
  obtain ⟨middle, ranFirst, rest⟩ := Option.bind_eq_some_iff.mp result
  obtain ⟨final, ranSecond, same⟩ := Option.map_eq_some_iff.mp rest
  simp only [Prod.mk.injEq] at same
  have reached : system.Reachable middle :=
    ⟨start, first, initial, runWhen_of_run (fun _ _ _ => trivial) ranFirst⟩
  exact ⟨middle, final, reached,
    runWhen_of_run (fun _ _ _ => trivial) ranSecond, same⟩

theorem RunWhen.append {state middle final : State}
    {first second : List Label}
    (before : system.RunWhen allowed state first middle)
    (after : system.RunWhen allowed middle second final) :
    system.RunWhen allowed state (first ++ second) final := by
  induction before with
  | nil => exact after
  | cons permitted taken _ induction =>
      exact .cons permitted taken (induction after)

theorem RunWhen.mono {other : State → Label → Prop} {state final : State}
    {labels : List Label} (runs : system.RunWhen allowed state labels final)
    (implies : ∀ state label, allowed state label → other state label) :
    system.RunWhen other state labels final := by
  induction runs with
  | nil => exact .nil _
  | cons permitted taken _ induction =>
      exact .cons (implies _ _ permitted) taken induction

/-- The run rule: what every allowed step preserves, every allowed run
preserves. -/
theorem RunWhen.preserves (property : State → Prop)
    {state final : State} {labels : List Label}
    (preserved : ∀ state label next, property state → allowed state label →
      system.step state label = some next → property next)
    (runs : system.RunWhen allowed state labels final)
    (holds : property state) : property final := by
  induction runs with
  | nil => exact holds
  | cons permitted taken _ induction =>
      exact induction (preserved _ _ _ holds permitted taken)

theorem ReachableWhen.run {state final : State} {labels : List Label}
    (reachable : system.ReachableWhen allowed state)
    (runs : system.RunWhen allowed state labels final) :
    system.ReachableWhen allowed final := by
  obtain ⟨start, before, initial, earlier⟩ := reachable
  exact ⟨start, before ++ labels, initial, earlier.append runs⟩

theorem ReachableWhen.next {state next : State} {label : Label}
    (reachable : system.ReachableWhen allowed state)
    (permitted : allowed state label)
    (taken : system.step state label = some next) :
    system.ReachableWhen allowed next :=
  reachable.run (.cons permitted taken (.nil _))

theorem ReachableWhen.start {state : State} (initial : system.initial state) :
    system.ReachableWhen allowed state :=
  ⟨state, [], initial, .nil state⟩

/-- The invariant rule: a step may also assume that it leaves a reachable
state, so that invariants proved earlier are at hand. -/
theorem ReachableWhen.invariant {property : State → Prop} {state : State}
    (reachable : system.ReachableWhen allowed state)
    (initially : ∀ state, system.initial state → property state)
    (preserved : ∀ state label next, system.ReachableWhen allowed state →
      property state → allowed state label →
      system.step state label = some next → property next) :
    property state := by
  obtain ⟨start, labels, initial, runs⟩ := reachable
  have both : system.ReachableWhen allowed state ∧ property state := by
    have first : system.ReachableWhen allowed start ∧ property start :=
      ⟨.start initial, initially start initial⟩
    clear initial
    induction runs with
    | nil => exact first
    | cons permitted taken _ induction =>
        exact induction ⟨first.1.next permitted taken,
          preserved _ _ _ first.1 first.2 permitted taken⟩
  exact both.2

/-- What is reachable under a condition is reachable under another that it
implies in the states it reaches. -/
theorem ReachableWhen.mono {other : State → Label → Prop} {state : State}
    (reachable : system.ReachableWhen allowed state)
    (implies : ∀ state label, system.ReachableWhen allowed state →
      allowed state label → other state label) :
    system.ReachableWhen other state :=
  reachable.invariant (fun _ initial => .start initial)
    fun state label _ reached before permitted taken =>
      before.next (implies state label reached permitted) taken

/-- A relation between states that every allowed step from a reachable state
satisfies, and that is a preorder, holds along every allowed run from a
reachable state. -/
theorem RunWhen.relates {relation : State → State → Prop}
    {state final : State} {labels : List Label}
    (reflexive : ∀ state, relation state state)
    (transitive : ∀ first second third,
      relation first second → relation second third → relation first third)
    (stepwise : ∀ state label next, system.ReachableWhen allowed state →
      allowed state label → system.step state label = some next →
      relation state next)
    (reachable : system.ReachableWhen allowed state)
    (runs : system.RunWhen allowed state labels final) :
    relation state final := by
  induction runs with
  | nil => exact reflexive _
  | cons permitted taken _ induction =>
      exact transitive _ _ _ (stepwise _ _ _ reachable permitted taken)
        (induction (reachable.next permitted taken))

/-! ## Runs with their past -/

/-- The states of a run, the last one first.  What a step is allowed to be may
depend on all the states before it. -/
inductive Trace (system : System State Label)
    (past : List State → Label → Prop) : List State → Prop where
  | start {state : State} : system.initial state → Trace system past [state]
  | next {state next : State} {earlier : List State} {label : Label} :
      Trace system past (state :: earlier) →
      past (state :: earlier) label →
      system.step state label = some next →
      Trace system past (next :: state :: earlier)

variable {past : List State → Label → Prop}

/-- The invariant rule for what is said of the last state and of those
before it. -/
theorem Trace.invariant (property : State → List State → Prop)
    {state : State} {earlier : List State}
    (trace : system.Trace past (state :: earlier))
    (initially : ∀ state, system.initial state → property state [])
    (preserved : ∀ state earlier label next,
      system.Trace past (state :: earlier) → property state earlier →
      past (state :: earlier) label → system.step state label = some next →
      property next (state :: earlier)) :
    property state earlier := by
  generalize states : state :: earlier = run at trace
  induction trace generalizing state earlier with
  | start initial =>
      cases states
      exact initially _ initial
  | next before permitted taken induction =>
      cases states
      exact preserved _ _ _ _ before (induction rfl) permitted taken

/-- The last state of a run with its past is reachable. -/
theorem Trace.reachable {state : State} {earlier : List State}
    (trace : system.Trace past (state :: earlier)) :
    system.Reachable state := by
  refine trace.invariant (fun state _ => system.Reachable state) ?_ ?_
  · intro state initial
    exact .start initial
  · intro state earlier label next _ reached _ taken
    exact reached.next trivial taken

/-- A computed run, under a condition that its labels meet whatever came
before. -/
theorem Trace.run {state final : State} {earlier : List State}
    {labels : List Label} (trace : system.Trace past (state :: earlier))
    (permitted : ∀ label ∈ labels, ∀ states, past states label)
    (result : system.run state labels = some final) :
    ∃ before, system.Trace past (final :: before) := by
  induction labels generalizing state earlier with
  | nil =>
      simp only [System.run, Option.some.injEq] at result
      subst result
      exact ⟨earlier, trace⟩
  | cons label labels induction =>
      simp only [System.run] at result
      cases taken : system.step state label with
      | none => simp [taken] at result
      | some next =>
          simp only [taken] at result
          apply induction (trace.next (permitted label (.head _) _) taken) _
            result
          intro other member
          exact permitted other (.tail _ member)

end System

end Transition
