import Mathlib.Data.List.Forall2

/-!
# Checks one after the other

What it takes for computations that can fail to succeed together.
-/

universe u v w

namespace Checks

variable {Failure : Type u} {Value Result : Type u}

theorem bind_ok {check : Except Failure Value}
    {next : Value → Except Failure Result} {result : Result} :
    (check >>= next) = .ok result ↔
      ∃ value, check = .ok value ∧ next value = .ok result := by
  cases check <;> simp [Bind.bind, Except.bind]

theorem map_ok {check : Except Failure Value} {f : Value → Result}
    {result : Result} :
    check.map f = .ok result ↔
      ∃ value, check = .ok value ∧ f value = result := by
  cases check <;> simp [Except.map]

/-- A list passes when each of its items does, in its place. -/
theorem mapM_ok {Item : Type v} {check : Item → Except Failure Value}
    {items : List Item} {values : List Value} :
    items.mapM check = .ok values ↔
      List.Forall₂ (fun item value => check item = .ok value) items values := by
  induction items generalizing values with
  | nil => cases values <;> simp [Pure.pure, Except.pure]
  | cons item items induction =>
      rw [List.mapM_cons, bind_ok]
      constructor
      · rintro ⟨value, passed, rest⟩
        obtain ⟨others, passes, last⟩ := bind_ok.mp rest
        cases last
        exact .cons passed (induction.mp passes)
      · rintro (_ | ⟨passed, passes⟩)
        exact ⟨_, passed, bind_ok.mpr ⟨_, induction.mpr passes, rfl⟩⟩

/-- What comes out of a list that passes comes from one of its items. -/
theorem exists_of_mem {Item : Type v} {passes : Item → Value → Prop}
    {items : List Item} {values : List Value} {value : Value}
    (all : List.Forall₂ passes items values) (member : value ∈ values) :
    ∃ item ∈ items, passes item value := by
  induction all with
  | nil => cases member
  | @cons item first items values passed _ induction =>
      rcases List.mem_cons.mp member with rfl | later
      · exact ⟨item, List.mem_cons_self, passed⟩
      · obtain ⟨source, inside, found⟩ := induction later
        exact ⟨source, List.mem_cons_of_mem _ inside, found⟩

end Checks
