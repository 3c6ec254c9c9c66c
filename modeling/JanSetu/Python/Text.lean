import JanSetu.Python.Unicode

/-!
# Python's string methods

`strip`, `upper`, `lower`, `isdigit` and `split` with the meaning they have on
`str`: code point by code point, over all of Unicode.  The one thing left out
is the final form of the Greek sigma in `lower`: no text that the program
compares after `lower` holds a sigma.
-/

namespace Python

def isSpace (char : Char) : Bool :=
  if char.toNat < 128 then
    (9 ≤ char.toNat && char.toNat ≤ 13) || (28 ≤ char.toNat && char.toNat ≤ 32)
  else
    spaceRanges.any (·.contains char.toNat)

def isDigit (char : Char) : Bool :=
  if char.toNat < 128 then
    48 ≤ char.toNat && char.toNat ≤ 57
  else
    digitRanges.any (·.contains char.toNat)

def mapCase (ranges : List CaseRange) (expansions : List (Nat × List Nat))
    (char : Char) : List Char :=
  match expansions.lookup char.toNat with
  | some codes => codes.map Char.ofNat
  | none =>
      match ranges.find? (·.contains char.toNat) with
      | some range => [range.apply char.toNat]
      | none => [char]

def upperChar (char : Char) : List Char :=
  if char.toNat < 128 then [char.toUpper]
  else mapCase upperRanges upperExpansions char

def lowerChar (char : Char) : List Char :=
  if char.toNat < 128 then [char.toLower]
  else mapCase lowerRanges lowerExpansions char

def upper (text : String) : String :=
  String.ofList (text.toList.flatMap upperChar)

def lower (text : String) : String :=
  String.ofList (text.toList.flatMap lowerChar)

def lstripChars (chars : List Char) : List Char :=
  chars.dropWhile isSpace

def strip (text : String) : String :=
  String.ofList
    (lstripChars (lstripChars text.toList).reverse).reverse

/-- The pieces of `text.split(separator)` for a separator of one character. -/
def splitChars (separator : Char) : List Char → List (List Char)
  | [] => [[]]
  | char :: chars =>
      if char = separator then
        [] :: splitChars separator chars
      else
        match splitChars separator chars with
        | [] => [[char]]
        | piece :: pieces => (char :: piece) :: pieces

def split (separator : Char) (text : String) : List String :=
  (splitChars separator text.toList).map String.ofList

/-- `text.partition(separator)` for a separator of one character. -/
def partition (separator : Char) (text : String) :
    String × String × String :=
  match text.toList.dropWhile (· != separator) with
  | [] => (text, "", "")
  | found :: after =>
      (String.ofList (text.toList.takeWhile (· != separator)),
        String.ofList [found], String.ofList after)

def startsWith (text start : String) : Bool :=
  start.toList.isPrefixOf text.toList

/-- The truth value of `str | None`. -/
def truthy : Option String → Bool
  | some text => text ≠ ""
  | none => false

theorem partition_append {separator : Char} {before after : String}
    (free : separator ∉ before.toList) :
    partition separator (before ++ String.ofList [separator] ++ after) =
      (before, String.ofList [separator], after) := by
  have kept : ∀ char ∈ before.toList, (char != separator) = true := by
    intro char member
    have different : char ≠ separator := fun same => free (same ▸ member)
    simpa using different
  have rest : (before.toList ++ separator :: after.toList).dropWhile
      (· != separator) = separator :: after.toList := by
    rw [List.dropWhile_append_of_pos kept]
    simp
  have taken : (before.toList ++ separator :: after.toList).takeWhile
      (· != separator) = before.toList := by
    rw [List.takeWhile_append_of_pos kept]
    simp
  simp [partition, rest, taken]

/-- A partition that leaves something after the separator takes the text
apart at the separator. -/
theorem eq_of_partition {separator : Char} {text before found after : String}
    (parts : partition separator text = (before, found, after))
    (nonempty : after ≠ "") :
    text = before ++ String.ofList [separator] ++ after := by
  have whole : text.toList.takeWhile (· != separator) ++
      text.toList.dropWhile (· != separator) = text.toList :=
    List.takeWhile_append_dropWhile
  have first := List.head?_dropWhile_not (· != separator) text.toList
  unfold partition at parts
  cases dropped : text.toList.dropWhile (· != separator) with
  | nil =>
      simp only [dropped, Prod.mk.injEq] at parts
      exact absurd parts.2.2.symm nonempty
  | cons char chars =>
      rw [dropped] at whole first
      simp only [List.head?_cons, bne_eq_false_iff_eq] at first
      simp only [dropped, Prod.mk.injEq] at parts
      obtain ⟨rfl, _, rfl⟩ := parts
      have chars : text.toList =
          text.toList.takeWhile (· != separator) ++ separator :: chars := by
        rw [first] at whole
        exact whole.symm
      apply String.toList_injective
      simpa using chars

/-! ## Splitting and joining -/

section

variable {separator : Char} {before after chars : List Char}

theorem splitChars_ne_nil : splitChars separator chars ≠ [] := by
  cases chars with
  | nil => simp [splitChars]
  | cons char chars =>
      unfold splitChars
      split
      · simp
      · split <;> simp

theorem splitChars_of_free (free : separator ∉ chars) :
    splitChars separator chars = [chars] := by
  induction chars with
  | nil => rfl
  | cons char chars induction =>
      simp only [List.mem_cons, not_or] at free
      rw [splitChars, if_neg (Ne.symm free.1), induction free.2]

theorem splitChars_append (free : separator ∉ before) :
    splitChars separator (before ++ separator :: after) =
      before :: splitChars separator after := by
  induction before with
  | nil => simp [splitChars]
  | cons char before induction =>
      simp only [List.mem_cons, not_or] at free
      rw [List.cons_append, splitChars, if_neg (Ne.symm free.1),
        induction free.2]

theorem splitChars_append_separator (left right : List Char) :
    splitChars separator (left ++ separator :: right) =
      splitChars separator left ++ splitChars separator right := by
  induction left with
  | nil => simp [splitChars]
  | cons char left induction =>
      rw [List.cons_append, splitChars, splitChars, induction]
      split
      · rfl
      · cases pieces : splitChars separator left with
        | nil => exact absurd pieces splitChars_ne_nil
        | cons piece pieces => rfl

/-- Between slashes alone there is nothing. -/
theorem splitChars_of_separators (all : ∀ char ∈ chars, char = separator) :
    ∀ piece ∈ splitChars separator chars, piece = [] := by
  induction chars with
  | nil => simp [splitChars]
  | cons char chars induction =>
      have rest := induction fun other member =>
        all other (List.mem_cons_of_mem _ member)
      rw [splitChars, if_pos (all char List.mem_cons_self)]
      intro piece member
      rcases List.mem_cons.mp member with same | later
      · exact same
      · exact rest piece later

/-- The pieces, joined again. -/
theorem intercalate_splitChars :
    [separator].intercalate (splitChars separator chars) = chars := by
  induction chars with
  | nil => rfl
  | cons char chars induction =>
      unfold splitChars
      cases rest : splitChars separator chars with
      | nil => exact absurd rest splitChars_ne_nil
      | cons piece pieces =>
          rw [rest] at induction
          split
          case isTrue same =>
            rw [List.intercalate_cons_cons, induction, same]
            rfl
          case isFalse =>
            cases pieces with
            | nil =>
                rw [List.intercalate_singleton] at induction ⊢
                rw [induction]
            | cons second pieces =>
                rw [List.intercalate_cons_cons] at induction ⊢
                rw [List.cons_append, List.cons_append, induction]

theorem intercalate_split (separator : Char) (text : String) :
    (String.ofList [separator]).intercalate (split separator text) = text := by
  apply String.toList_injective
  rw [String.toList_intercalate, String.toList_ofList, split, List.map_map]
  have same : String.toList ∘ String.ofList = id := by
    funext chars
    exact String.toList_ofList
  rw [same, List.map_id, intercalate_splitChars]

/-- Pieces without separators are the pieces of what they are joined to. -/
theorem splitChars_intercalate {pieces : List (List Char)}
    (some : pieces ≠ []) (free : ∀ piece ∈ pieces, separator ∉ piece) :
    splitChars separator ([separator].intercalate pieces) = pieces := by
  induction pieces with
  | nil => exact absurd rfl some
  | cons piece pieces induction =>
      have first := free piece List.mem_cons_self
      cases pieces with
      | nil =>
          rw [List.intercalate_singleton]
          exact splitChars_of_free first
      | cons second pieces =>
          have rest := induction (List.cons_ne_nil _ _)
            fun piece member => free piece (List.mem_cons_of_mem _ member)
          rw [List.intercalate_cons_cons, List.append_assoc,
            List.singleton_append, splitChars_append first, rest]

end

/-! ## White space -/

theorem lstripChars_eq_nil {chars : List Char} :
    lstripChars chars = [] ↔ ∀ char ∈ chars, isSpace char = true := by
  induction chars with
  | nil => simp [lstripChars]
  | cons char chars induction =>
      cases space : isSpace char with
      | false => simp [lstripChars, space]
      | true =>
          simp only [lstripChars, List.dropWhile_cons, space, if_true,
            List.forall_mem_cons, true_and]
          exact induction

theorem mem_lstripChars {char : Char} {chars : List Char}
    (member : char ∈ chars) (ink : isSpace char = false) :
    char ∈ lstripChars chars := by
  induction chars with
  | nil => cases member
  | cons first chars induction =>
      cases space : isSpace first with
      | false => simpa [lstripChars, space] using member
      | true =>
          have rest : char ∈ chars := by
            rcases List.mem_cons.mp member with rfl | rest
            · rw [ink] at space
              cases space
            · exact rest
          simpa [lstripChars, space] using induction rest

theorem mem_strip {char : Char} {text : String} (member : char ∈ text.toList)
    (ink : isSpace char = false) : char ∈ (strip text).toList := by
  have left := mem_lstripChars member ink
  have right := mem_lstripChars (List.mem_reverse.mpr left) ink
  simpa [strip] using right

/-- Nothing is left of a text when it is all white space. -/
theorem strip_eq_empty {text : String} :
    strip text = "" ↔ ∀ char ∈ text.toList, isSpace char = true := by
  constructor
  · intro blank char member
    cases ink : isSpace char with
    | true => rfl
    | false =>
        have kept := mem_strip member ink
        rw [blank] at kept
        cases kept
  · intro spaces
    have none : lstripChars text.toList = [] := lstripChars_eq_nil.mpr spaces
    rw [strip, none]
    rfl

/-- Text without white space is its own strip. -/
theorem strip_eq_self {text : String}
    (ink : ∀ char ∈ text.toList, isSpace char = false) : strip text = text := by
  have kept : ∀ chars : List Char, (∀ char ∈ chars, isSpace char = false) →
      lstripChars chars = chars := by
    intro chars dark
    cases chars with
    | nil => rfl
    | cons first rest =>
        exact List.dropWhile_cons_of_neg (by simp [dark first List.mem_cons_self])
  have reversed : ∀ char ∈ text.toList.reverse, isSpace char = false := by
    intro char member
    exact ink char (List.mem_reverse.mp member)
  rw [strip, kept _ ink, kept _ reversed, List.reverse_reverse,
    String.ofList_toList]

theorem lower_eq_self {text : String}
    (small : ∀ char ∈ text.toList, lowerChar char = [char]) :
    lower text = text := by
  have same : ∀ chars : List Char,
      (∀ char ∈ chars, lowerChar char = [char]) →
      chars.flatMap lowerChar = chars := by
    intro chars
    induction chars with
    | nil => exact fun _ => rfl
    | cons first rest induction =>
        intro each
        rw [List.flatMap_cons, each first List.mem_cons_self,
          induction fun char member => each char (List.mem_cons_of_mem _ member)]
        rfl
  rw [lower, same _ small, String.ofList_toList]

theorem strip_strip_eq_empty {text : String} :
    strip (strip text) = "" ↔ strip text = "" := by
  constructor
  · intro blank
    rw [strip_eq_empty] at blank ⊢
    intro char member
    cases ink : isSpace char with
    | true => rfl
    | false =>
        rw [blank char (mem_strip member ink)] at ink
        cases ink
  · intro blank
    rw [blank]
    decide

/-- Lines joined are blank when every line is. -/
theorem strip_intercalate_eq_empty {lines : List String} :
    strip (String.intercalate "\n" lines) = "" ↔
      ∀ line ∈ lines, strip line = "" := by
  simp only [strip_eq_empty]
  induction lines with
  | nil => simp
  | cons line lines induction =>
      cases lines with
      | nil => simp
      | cons second lines =>
          rw [String.intercalate_cons_cons, List.forall_mem_cons,
            ← induction]
          have space : isSpace '\n' = true := by decide
          simp [or_imp, forall_and, space]

example : strip " \n js-ab2cd3 " = "js-ab2cd3" := by decide

example : upper "straße" = "STRASSE" := by decide

example : split ':' "login_yes::v" = ["login_yes", "", "v"] := by decide

example : partition ':' "loc_confirm_yes:a:b" =
    ("loc_confirm_yes", ":", "a:b") := by decide

end Python
