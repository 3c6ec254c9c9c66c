import JanSetu.Library.Mentions
import JanSetu.Python.Text

/-!
# Stripped lines

What `strip` and `"\n".join` keep of a text: everything but white space, and
every stripped line in order.
-/

namespace Python

/-- The number of characters that are no white space. -/
def ink (text : String) : Nat :=
  text.toList.countP fun char => !isSpace char

theorem countP_lstripChars (chars : List Char) :
    (lstripChars chars).countP (fun char => !isSpace char) =
      chars.countP fun char => !isSpace char := by
  induction chars with
  | nil => rfl
  | cons char chars induction =>
      cases space : isSpace char with
      | false => simp [lstripChars, space]
      | true =>
          have dropped : lstripChars (char :: chars) = lstripChars chars := by
            simp [lstripChars, space]
          simp [dropped, induction, space]

theorem ink_strip (text : String) : ink (strip text) = ink text := by
  simp only [ink, strip, String.toList_ofList, List.countP_reverse,
    countP_lstripChars]

theorem countP_strip (text : String) :
    (strip text).toList.countP (fun char => !isSpace char) = ink text :=
  ink_strip text

theorem ink_eq_zero {text : String} : ink text = 0 ↔ strip text = "" := by
  rw [strip_eq_empty, ink, List.countP_eq_zero]
  simp

theorem ink_intercalate (lines : List String) :
    ink (String.intercalate "\n" lines) = (lines.map ink).sum := by
  induction lines with
  | nil => rfl
  | cons line lines induction =>
      cases lines with
      | nil => simp
      | cons second lines =>
          have space : isSpace '\n' = true := by decide
          rw [String.intercalate_cons_cons, List.map_cons, List.sum_cons,
            ← induction]
          simp [ink, space]

theorem strip_toList (text : String) :
    (strip text).toList =
      (lstripChars (lstripChars text.toList).reverse).reverse := by
  rw [strip, String.toList_ofList]

theorem lstripChars_suffix (chars : List Char) :
    lstripChars chars <:+ chars :=
  List.dropWhile_suffix _

theorem strip_part (text : String) :
    (strip text).toList <:+: text.toList := by
  rw [strip_toList]
  have ends : (lstripChars (lstripChars text.toList).reverse).reverse <+:
      lstripChars text.toList := by
    have cut := lstripChars_suffix (lstripChars text.toList).reverse
    simpa using List.reverse_prefix.mpr cut
  exact ends.isInfix.trans (lstripChars_suffix text.toList).isInfix

/-- The text neither begins nor ends with white space, nor is it empty. -/
def Trimmed (piece : List Char) : Prop :=
  (∃ first rest, piece = first :: rest ∧ isSpace first = false) ∧
    ∃ last rest, piece.reverse = last :: rest ∧ isSpace last = false

theorem lstripChars_begins {chars : List Char}
    (some : lstripChars chars ≠ []) :
    ∃ first rest, lstripChars chars = first :: rest ∧
      isSpace first = false := by
  cases cut : lstripChars chars with
  | nil => exact absurd cut some
  | cons first rest =>
      refine ⟨first, rest, rfl, ?_⟩
      have kept := List.head?_dropWhile_not isSpace chars
      rw [show chars.dropWhile isSpace = first :: rest from cut] at kept
      simpa using kept

theorem trimmed_strip {text : String} (some : strip text ≠ "") :
    Trimmed (strip text).toList := by
  have nonempty : lstripChars (lstripChars text.toList).reverse ≠ [] := by
    intro empty
    apply some
    rw [← String.toList_inj, strip_toList, empty]
    rfl
  obtain ⟨last, front, cut, dark⟩ := lstripChars_begins nonempty
  rw [strip_toList]
  refine ⟨?_, last, front, by rw [List.reverse_reverse, cut], dark⟩
  have left : lstripChars text.toList ≠ [] := by
    intro empty
    rw [empty] at nonempty
    exact nonempty rfl
  obtain ⟨first, rest, begins, ink⟩ := lstripChars_begins left
  -- The text that is left of the strip on the right begins as before.
  obtain ⟨cutOff, same⟩ :=
    lstripChars_suffix (lstripChars text.toList).reverse
  have whole := congrArg List.reverse same
  rw [List.reverse_append, List.reverse_reverse] at whole
  replace whole := whole.trans begins
  cases reversed : (lstripChars (lstripChars text.toList).reverse).reverse with
  | nil => exact absurd (List.reverse_eq_nil_iff.mp reversed) nonempty
  | cons head tail =>
      rw [reversed] at whole
      refine ⟨head, tail, rfl, ?_⟩
      rw [(List.cons.inj whole).1]
      exact ink

/-- Stripping a text loses no trimmed piece. -/
theorem mentions_strip {text : String} {pieces : List (List Char)}
    (trimmed : ∀ piece ∈ pieces, Trimmed piece)
    (mentions : Mentions text.toList pieces) :
    Mentions (strip text).toList pieces := by
  have left : Mentions (lstripChars text.toList) pieces :=
    mentions.dropWhile fun piece member => (trimmed piece member).1
  have right : Mentions (lstripChars (lstripChars text.toList).reverse)
      (pieces.map List.reverse).reverse := by
    refine left.reverse.dropWhile fun piece member => ?_
    obtain ⟨original, present, rfl⟩ :=
      List.mem_map.mp (List.mem_reverse.mp member)
    exact (trimmed original present).2
  rw [strip_toList]
  simpa using right.reverse

/-- Joined and stripped lines mention the stripped lines among them. -/
theorem mentions_lines {lines : List String} {pieces : List (List Char)}
    (trimmed : ∀ piece ∈ pieces, Trimmed piece)
    (held : List.SublistForall₂ (· <:+: ·) pieces
      (lines.map String.toList)) :
    Mentions (strip (String.intercalate "\n" lines)).toList pieces := by
  apply mentions_strip trimmed
  rw [String.toList_intercalate]
  exact Mentions.intercalate _ held

end Python
