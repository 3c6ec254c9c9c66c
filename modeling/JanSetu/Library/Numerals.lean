import Mathlib.Data.List.Basic
import Mathlib.Data.Nat.Digits.Defs

/-!
# Texts that end in a number

A text that is put together from a first part, a mark and a number determines
the two, whatever the first part is, as no digit is a mark.
-/

namespace Numerals

/-- What follows the last mark of a text is determined. -/
theorem append_mark_inj {mark : Char} {before before' after after' : List Char}
    (last : mark ∉ after) (last' : mark ∉ after')
    (same : before ++ mark :: after = before' ++ mark :: after') :
    before = before' ∧ after = after' := by
  rcases List.append_eq_append_iff.mp same with
    ⟨middle, left, right⟩ | ⟨middle, left, right⟩
  · cases middle with
    | nil =>
        rw [List.append_nil] at left
        exact ⟨left.symm, (List.cons.inj right).2⟩
    | cons char middle =>
        have tail := (List.cons.inj right).2
        rw [tail] at last
        exact absurd (List.mem_append_right _ List.mem_cons_self) last
  · cases middle with
    | nil =>
        rw [List.append_nil] at left
        exact ⟨left, (List.cons.inj right).2.symm⟩
    | cons char middle =>
        have tail := (List.cons.inj right).2
        rw [tail] at last'
        exact absurd (List.mem_append_right _ List.mem_cons_self) last'

theorem digits_of_toString {number : Nat} {char : Char}
    (member : char ∈ (toString number).toList) : char.isDigit = true := by
  have member : char ∈ Nat.toDigits 10 number := by
    simpa using member
  exact Nat.isDigit_of_mem_toDigits (by decide) (by decide) member

theorem toString_inj {first second : Nat}
    (same : toString first = toString second) : first = second := by
  have digits : Nat.toDigits 10 first = Nat.toDigits 10 second := by
    simpa using congrArg String.toList same
  have values := congrArg (Nat.ofDigitChars 10 · 0) digits
  simpa [Nat.ofDigitChars_toDigits] using values

theorem toString_nonempty (number : Nat) : toString number ≠ "" := by
  intro empty
  have digits : Nat.toDigits 10 number = [] := by
    simpa using congrArg String.toList empty
  have some_ : Nat.toDigits 10 number ≠ [] := by
    simp
  exact some_ digits

theorem mark_not_mem_digits (number : Nat) :
    ':' ∉ (toString number).toList := by
  intro member
  have digit := digits_of_toString member
  revert digit
  decide

/-- A text with a number behind the last mark. -/
theorem numbered_inj {before before' : String} {number number' : Nat}
    (same : before ++ ":" ++ toString number =
      before' ++ ":" ++ toString number') :
    before = before' ∧ number = number' := by
  have chars := congrArg String.toList same
  simp only [String.toList_append, List.append_assoc] at chars
  obtain ⟨names, digits⟩ := append_mark_inj (mark_not_mem_digits number)
    (mark_not_mem_digits number') chars
  exact ⟨String.toList_inj.mp names,
    toString_inj (String.toList_inj.mp digits)⟩

end Numerals
