import Mathlib.Algebra.Order.Ring.Nat
import Mathlib.Data.List.Forall2

/-!
# Pieces that occur in a list in order

A list mentions some pieces when they occur in it one after the other and
apart.  Joined lines mention what each of them holds, cutting off elements that
no piece begins or ends with loses no piece, and a list has room for no more
elements of a kind than it holds.
-/

universe u

variable {α : Type u}

inductive Mentions : List α → List (List α) → Prop where
  | nil (whole : List α) : Mentions whole []
  | cons (before piece : List α) {after : List α}
      {pieces : List (List α)} :
      Mentions after pieces →
      Mentions (before ++ piece ++ after) (piece :: pieces)

namespace Mentions

variable {whole left right : List α} {pieces others : List (List α)}

theorem prepend (before : List α) (mentions : Mentions whole pieces) :
    Mentions (before ++ whole) pieces := by
  cases mentions with
  | nil => exact .nil _
  | cons front piece rest =>
      have moved := Mentions.cons (before ++ front) piece rest
      simpa [List.append_assoc] using moved

theorem append (first : Mentions left pieces)
    (second : Mentions right others) :
    Mentions (left ++ right) (pieces ++ others) := by
  induction first with
  | nil whole => exact second.prepend whole
  | cons before piece _ induction =>
      have moved := Mentions.cons before piece induction
      simpa [List.append_assoc] using moved

theorem of_part {piece : List α} (part : piece <:+: whole) :
    Mentions whole [piece] := by
  obtain ⟨before, after, rfl⟩ := part
  exact .cons before piece (.nil after)

theorem reverse (mentions : Mentions whole pieces) :
    Mentions whole.reverse (pieces.map List.reverse).reverse := by
  induction mentions with
  | nil => exact .nil _
  | cons before piece _ induction =>
      have last : Mentions (before ++ piece).reverse [piece.reverse] :=
        of_part ⟨[], before.reverse, by simp⟩
      have joined := induction.append last
      simpa using joined

theorem joined {line : List α} {lines : List (List α)}
    (separator : List α) (first : Mentions line pieces)
    (rest : Mentions (separator.intercalate lines) others) :
    Mentions (separator.intercalate (line :: lines)) (pieces ++ others) := by
  cases lines with
  | nil => simpa using first.append rest
  | cons second lines =>
      rw [List.intercalate_cons_cons, List.append_assoc]
      exact first.append (rest.prepend separator)

/-- Lines joined with a separator mention what each of them holds. -/
theorem intercalate {lines : List (List α)} (separator : List α)
    (held : List.SublistForall₂ (· <:+: ·) pieces lines) :
    Mentions (separator.intercalate lines) pieces := by
  induction held with
  | nil => exact .nil _
  | cons part _ induction => exact (of_part part).joined separator induction
  | cons_right _ induction => exact (Mentions.nil _).joined separator induction

/-- Dropping a front of elements that no piece begins with. -/
theorem dropWhile {test : α → Bool}
    (begins : ∀ piece ∈ pieces, ∃ first rest, piece = first :: rest ∧
      test first = false)
    (mentions : Mentions whole pieces) :
    Mentions (whole.dropWhile test) pieces := by
  cases mentions with
  | nil => exact .nil _
  | cons before piece rest =>
      obtain ⟨first, tail, rfl, kept⟩ := begins piece List.mem_cons_self
      have cut : ∀ after : List α,
          (before ++ first :: after).dropWhile test =
            before.dropWhile test ++ first :: after := by
        intro after
        have stays : (first :: after).dropWhile test = first :: after :=
          List.dropWhile_cons_of_neg (by simp [kept])
        rw [List.dropWhile_append, stays]
        split
        case isTrue all => rw [List.isEmpty_iff.mp all, List.nil_append]
        case isFalse => rfl
      rw [List.append_assoc, List.cons_append, cut, ← List.cons_append,
        ← List.append_assoc]
      exact .cons _ _ rest

/-- The pieces hold no more elements of a kind than the whole. -/
theorem countP_le (test : α → Bool) (mentions : Mentions whole pieces) :
    (pieces.map (List.countP test)).sum ≤ whole.countP test := by
  induction mentions with
  | nil => simp
  | cons before piece _ induction =>
      simp only [List.map_cons, List.sum_cons, List.countP_append]
      omega

end Mentions
