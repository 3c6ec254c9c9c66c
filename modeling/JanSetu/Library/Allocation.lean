import Mathlib.Tactic.TypeStar

/-!
# Names drawn from a counter

Holders are given names that are made of a stamp and of the next count of a
sequence.  Where a name determines its count, no two holders have one name, a
holder keeps the name it was given, and a name given later was no name before.
-/

universe u v w

/-- The next count, and the names of the holders there are. -/
structure Allocation (Holder : Type u) (Name : Type v) where
  next : Nat
  named : Holder → Option Name

namespace Allocation

variable {Holder : Type u} {Name : Type v} {Stamp : Type w}

/-- The name was made of a count below the bound. -/
def DrawnBelow (name : Stamp → Nat → Name) (bound : Nat) (given : Name) :
    Prop :=
  ∃ stamp count, count < bound ∧ given = name stamp count

theorem DrawnBelow.mono {name : Stamp → Nat → Name} {bound further : Nat}
    {given : Name} (drawn : DrawnBelow name bound given)
    (within : bound ≤ further) : DrawnBelow name further given := by
  obtain ⟨stamp, count, below, is⟩ := drawn
  exact ⟨stamp, count, Nat.lt_of_lt_of_le below within, is⟩

structure Sound (name : Stamp → Nat → Name)
    (allocation : Allocation Holder Name) : Prop where
  drawn : ∀ holder given, allocation.named holder = some given →
    DrawnBelow name allocation.next given
  unique : ∀ holder other given, allocation.named holder = some given →
    allocation.named other = some given → holder = other

/-- What a step may do: the sequence can advance without a name, as when the
transaction that has drawn from it finds its holder named already. -/
inductive Step (name : Stamp → Nat → Name)
    (before after : Allocation Holder Name) : Prop
  | kept :
      before.next ≤ after.next →
      (∀ holder, after.named holder = before.named holder) →
      Step name before after
  | drew (holder : Holder) (stamp : Stamp) :
      before.named holder = none →
      after.next = before.next + 1 →
      after.named holder = some (name stamp before.next) →
      (∀ other, other ≠ holder → after.named other = before.named other) →
      Step name before after

/-- Every holder still has its name, and whoever has one since then has one
that is drawn later than the names of before. -/
structure Extends (name : Stamp → Nat → Name)
    (before after : Allocation Holder Name) : Prop where
  next : before.next ≤ after.next
  stays : ∀ holder given, before.named holder = some given →
    after.named holder = some given
  later : ∀ holder given, before.named holder = none →
    after.named holder = some given →
    ∃ stamp count, before.next ≤ count ∧ given = name stamp count

variable {name : Stamp → Nat → Name}
  {before middle after : Allocation Holder Name}

theorem Step.of_same (next : after.next = before.next)
    (named : after.named = before.named) : Step name before after := by
  apply Step.kept (Nat.le_of_eq next.symm)
  intro holder
  rw [named]

theorem Step.sound
    (determines : ∀ stamp other count further,
      name stamp count = name other further → count = further)
    (step : Step name before after) (sound : Sound name before) :
    Sound name after := by
  cases step with
  | kept next named =>
      constructor
      · intro holder given has
        rw [named] at has
        exact (sound.drawn holder given has).mono next
      · intro holder other given has alsoHas
        rw [named] at has alsoHas
        exact sound.unique holder other given has alsoHas
  | drew holder stamp unnamed next named others =>
      -- The new count is above all that have been drawn.
      have fresh : ∀ other, other ≠ holder →
          after.named other ≠ some (name stamp before.next) := by
        intro other different has
        rw [others other different] at has
        obtain ⟨earlier, count, below, same⟩ := sound.drawn other _ has
        have is := determines _ _ _ _ same
        omega
      constructor
      · intro other given has
        by_cases same : other = holder
        · rw [same, named] at has
          cases has
          exact ⟨stamp, before.next, by omega, rfl⟩
        · rw [others other same] at has
          exact (sound.drawn other given has).mono (by omega)
      · intro first second given has alsoHas
        by_cases isFirst : first = holder
        · by_cases isSecond : second = holder
          · rw [isFirst, isSecond]
          · rw [isFirst, named] at has
            cases has
            exact absurd alsoHas (fresh second isSecond)
        · by_cases isSecond : second = holder
          · rw [isSecond, named] at alsoHas
            cases alsoHas
            exact absurd has (fresh first isFirst)
          · rw [others first isFirst] at has
            rw [others second isSecond] at alsoHas
            exact sound.unique first second given has alsoHas

theorem Step.extends (step : Step name before after) :
    Extends name before after := by
  cases step with
  | kept next named =>
      refine ⟨next, ?_, ?_⟩
      · intro holder given has
        rw [named, has]
      · intro holder given unnamed has
        rw [named, unnamed] at has
        cases has
  | drew holder stamp unnamed next named others =>
      refine ⟨by omega, ?_, ?_⟩
      · intro other given has
        have different : other ≠ holder := by
          rintro rfl
          rw [unnamed] at has
          cases has
        rw [others other different, has]
      · intro other given was has
        by_cases same : other = holder
        · rw [same, named] at has
          cases has
          exact ⟨stamp, before.next, Nat.le_refl _, rfl⟩
        · rw [others other same, was] at has
          cases has

theorem Extends.refl (allocation : Allocation Holder Name) :
    Extends name allocation allocation := by
  refine ⟨Nat.le_refl _, fun _ _ has => has, ?_⟩
  intro holder given unnamed has
  rw [unnamed] at has
  cases has

theorem Extends.trans (first : Extends name before middle)
    (second : Extends name middle after) : Extends name before after := by
  refine ⟨Nat.le_trans first.next second.next, ?_, ?_⟩
  · intro holder given has
    exact second.stays holder given (first.stays holder given has)
  · intro holder given unnamed has
    cases between : middle.named holder with
    | none =>
        obtain ⟨stamp, count, above, is⟩ :=
          second.later holder given between has
        exact ⟨stamp, count, Nat.le_trans first.next above, is⟩
    | some earlier =>
        have same : earlier = given :=
          Option.some.inj
            ((second.stays holder earlier between).symm.trans has)
        exact same ▸ first.later holder earlier unnamed between

end Allocation
