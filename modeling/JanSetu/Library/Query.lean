import Mathlib.Data.List.Count
import Mathlib.Data.List.Pairwise
import Mathlib.Data.Prod.Lex

/-!
# Queries with NULLs and pages

The conditions of a `WHERE` clause are true, false or unknown, and only the
rows on which the clause is true are selected.  `ORDER BY` leaves the order of
rows with equal keys to the database, so that an order is any arrangement of
the selected rows along their keys; `LIMIT` and `OFFSET` cut a page out of it.
Each page is a query of its own and may find another arrangement: together they
show every row exactly when no page ends between two rows with one key.
-/

universe u v w

namespace Query

/-! ## Conditions -/

/-- A truth value of SQL; `none` is unknown. -/
abbrev Truth := Option Bool

section

variable {Value : Type u} [DecidableEq Value]

/-- `column = value`, unknown on NULL. -/
def equals (column : Option Value) (value : Value) : Truth :=
  column.map fun stored => stored = value

/-- `column IN (values)`: false without values, else unknown on NULL. -/
def isIn (column : Option Value) (values : List Value) : Truth :=
  if values = [] then some false else column.map fun stored => stored ∈ values

theorem equals_eq_true {column : Option Value} {value : Value} :
    equals column value = some true ↔ column = some value := by
  cases column <;> simp [equals]

theorem isIn_eq_true {column : Option Value} {values : List Value} :
    isIn column values = some true ↔ ∃ value ∈ values, column = some value := by
  unfold isIn
  split
  case isTrue none => simp [none]
  case isFalse => cases column <;> simp

end

/-- `AND`: a false side decides, else an unknown side leaves it unknown. -/
def Truth.and : Truth → Truth → Truth
  | some false, _ => some false
  | _, some false => some false
  | none, _ => none
  | _, none => none
  | some true, some true => some true

def Truth.all (conditions : List Truth) : Truth :=
  conditions.foldr Truth.and (some true)

theorem Truth.and_eq_true {left right : Truth} :
    left.and right = some true ↔ left = some true ∧ right = some true := by
  rcases left with _ | _ | _ <;> rcases right with _ | _ | _ <;>
    simp [Truth.and]

theorem Truth.all_eq_true {conditions : List Truth} :
    Truth.all conditions = some true ↔
      ∀ condition ∈ conditions, condition = some true := by
  induction conditions with
  | nil => simp [Truth.all]
  | cons condition conditions induction =>
      rw [List.forall_mem_cons, ← induction]
      exact Truth.and_eq_true

/-! ## Pages -/

variable {Row : Type u} {Key : Type v} [LinearOrder Key] {key : Row → Key}

/-- What `ORDER BY` makes of the selected rows. -/
structure Arrangement (key : Row → Key) where
  arrange : List Row → List Row
  perm : ∀ rows, (arrange rows).Perm rows
  ordered : ∀ rows,
    (arrange rows).Pairwise fun left right => key left ≤ key right

namespace Arrangement

/-- The arrangement that keeps rows with equal keys in the order in which they
are stored. -/
def stable (key : Row → Key) : Arrangement key :=
  { arrange := fun rows =>
      rows.mergeSort fun left right => key left ≤ key right
    perm := fun rows => List.mergeSort_perm rows _
    ordered := fun rows => by
      have sorted := @List.pairwise_mergeSort Row
        (fun left right => decide (key left ≤ key right))
        (fun first second third before after =>
          decide_eq_true (le_trans (of_decide_eq_true before)
            (of_decide_eq_true after)))
        (fun left right => by simpa using le_total (key left) (key right))
        rows
      exact sorted.imp of_decide_eq_true }

/-- An arrangement along the keys and, where they are equal, a rank. -/
def ranked {Rank : Type w} [LinearOrder Rank] {rank : Row → Rank}
    (order : Arrangement fun row => toLex (key row, rank row)) :
    Arrangement key :=
  { arrange := order.arrange
    perm := order.perm
    ordered := fun rows => (order.ordered rows).imp fun before =>
      Prod.Lex.monotone_fst _ _ before }

/-- `LIMIT` and `OFFSET` over the arranged rows. -/
def page (order : Arrangement key) (limit offset : Nat) (rows : List Row) :
    List Row :=
  ((order.arrange rows).drop offset).take limit

section

variable {order : Arrangement key} {rows : List Row} {row : Row}
  {limit offset place : Nat}

theorem mem_of_mem_page (onPage : row ∈ order.page limit offset rows) :
    row ∈ rows :=
  (order.perm rows).mem_iff.mp
    (List.mem_of_mem_drop (List.mem_of_mem_take onPage))

theorem mem_page_iff : row ∈ order.page limit offset rows ↔
    ∃ place, offset ≤ place ∧ place < offset + limit ∧
      (order.arrange rows)[place]? = some row := by
  rw [page, List.mem_iff_getElem?]
  constructor
  · rintro ⟨index, found⟩
    have within : index < limit := by
      by_contra beyond
      rw [List.getElem?_take_eq_none (Nat.le_of_not_lt beyond)] at found
      cases found
    rw [List.getElem?_take_of_lt within, List.getElem?_drop] at found
    exact ⟨offset + index, by omega, by omega, found⟩
  · rintro ⟨place, after, before, found⟩
    refine ⟨place - offset, ?_⟩
    have whole : offset + (place - offset) = place := by omega
    rw [List.getElem?_take_of_lt (by omega), List.getElem?_drop, whole, found]

/-- A row stands behind all rows with smaller keys and before all with greater
ones. -/
theorem place_bounds (order : Arrangement key)
    (found : (order.arrange rows)[place]? = some row) :
    rows.countP (fun other => key other < key row) ≤ place ∧
      place < rows.countP fun other => key other ≤ key row := by
  obtain ⟨bound, same⟩ := List.getElem?_eq_some_iff.mp found
  have split : order.arrange rows =
      (order.arrange rows).take place ++
        row :: (order.arrange rows).drop (place + 1) := by
    rw [← same, ← List.drop_eq_getElem_cons bound, List.take_append_drop]
  have ordered := order.ordered rows
  rw [split, List.pairwise_append, List.pairwise_cons] at ordered
  obtain ⟨-, ⟨later, -⟩, earlier⟩ := ordered
  have length : ((order.arrange rows).take place).length = place := by
    rw [List.length_take]
    omega
  have none : (row :: (order.arrange rows).drop (place + 1)).countP
      (fun other => key other < key row) = 0 := by
    rw [List.countP_eq_zero]
    intro other member
    rcases List.mem_cons.mp member with rfl | behind
    · simp
    · simpa using later other behind
  have all : ((order.arrange rows).take place).countP
      (fun other => key other ≤ key row) = place := by
    rw [List.countP_eq_length.mpr, length]
    intro other member
    simpa using earlier other member row (.head _)
  rw [← (order.perm rows).countP_eq, ← (order.perm rows).countP_eq, split,
    List.countP_append, List.countP_append, none, all,
    List.countP_cons_of_pos (by simp)]
  refine ⟨?_, by omega⟩
  have few := List.countP_le_length (l := (order.arrange rows).take place)
    (p := fun other => Decidable.decide (key other < key row))
  omega

end

/-! ## All pages -/

/-- A page ends between two rows with this key. -/
def Splits (key : Row → Key) (limit : Nat) (rows : List Row) (value : Key) :
    Prop :=
  ∃ number, rows.countP (fun row => key row < value) < number * limit ∧
    number * limit < rows.countP fun row => key row ≤ value

section

variable {rows : List Row} {row : Row} {limit : Nat}

/-- While no page ends within its key, a row is on one page however each page
is arranged. -/
theorem mem_pages (orders : Nat → Arrangement key) (positive : 0 < limit)
    (whole : ¬ Splits key limit rows (key row)) (selected : row ∈ rows) :
    ∃ number, row ∈ (orders number).page limit (number * limit) rows := by
  let smaller := rows.countP fun other => key other < key row
  let number := smaller / limit
  have starts : number * limit ≤ smaller := Nat.div_mul_le_self smaller limit
  have ends : smaller < (number + 1) * limit :=
    Nat.lt_mul_of_div_lt (Nat.lt_succ_self _) positive
  have holds : rows.countP (fun other => key other ≤ key row) ≤
      (number + 1) * limit := by
    by_contra beyond
    exact whole ⟨number + 1, ends, Nat.lt_of_not_le beyond⟩
  have arranged := ((orders number).perm rows).mem_iff.mpr selected
  obtain ⟨place, found⟩ := List.mem_iff_getElem?.mp arranged
  obtain ⟨behind, before⟩ := place_bounds (orders number) found
  refine ⟨number, mem_page_iff.mpr ⟨place, starts.trans behind, ?_, found⟩⟩
  calc place < rows.countP fun other => key other ≤ key row := before
    _ ≤ (number + 1) * limit := holds
    _ = number * limit + limit := Nat.succ_mul number limit

omit [LinearOrder Key] in
/-- Rows that all but one pass a test are at most one more. -/
theorem countP_le_succ {test other : Row → Bool} (row : Row)
    (distinct : rows.Nodup)
    (covers : ∀ found ∈ rows, test found → other found ∨ found = row) :
    rows.countP test ≤ rows.countP other + 1 := by
  induction rows with
  | nil => simp
  | cons head tail induction =>
      obtain ⟨apart, rest⟩ := List.nodup_cons.mp distinct
      have behind := induction rest fun found member =>
        covers found (.tail head member)
      rw [List.countP_cons, List.countP_cons]
      cases passes : test head with
      | false => grind
      | true =>
          rcases covers head (.head tail) passes with own | rfl
          · grind
          · have others : tail.countP test ≤ tail.countP other := by
              apply List.countP_mono_left
              intro found member passed
              rcases covers found (.tail head member) passed with own | rfl
              · exact own
              · exact absurd member apart
            grind

variable [DecidableEq Row]

/-- A row can stand behind all others with its key. -/
theorem exists_last (key : Row → Key) (distinct : rows.Nodup) (row : Row) :
    ∃ order : Arrangement key, ∀ place,
      (order.arrange rows)[place]? = some row →
      rows.countP (fun other => key other ≤ key row) ≤ place + 1 := by
  let order := stable fun other => toLex (key other, decide (other = row))
  refine ⟨order.ranked, ?_⟩
  intro place found
  obtain ⟨behind, _⟩ := place_bounds order found
  apply (countP_le_succ row distinct ?_).trans
    (Nat.succ_le_succ behind)
  intro other _ upTo
  by_cases same : other = row
  · exact .inr same
  · left
    have before : key other < key row ∨ key other = key row :=
      lt_or_eq_of_le (of_decide_eq_true upTo)
    simpa [Prod.Lex.toLex_lt_toLex, same] using before

/-- A row can stand before all others with its key. -/
theorem exists_first (key : Row → Key) (distinct : rows.Nodup) (row : Row) :
    ∃ order : Arrangement key, ∀ place,
      (order.arrange rows)[place]? = some row →
      place ≤ rows.countP fun other => key other < key row := by
  let order := stable fun other => toLex (key other, decide (other ≠ row))
  refine ⟨order.ranked, ?_⟩
  intro place found
  obtain ⟨_, before⟩ := place_bounds order found
  apply Nat.le_of_lt_succ
  apply before.trans_le
  apply countP_le_succ row distinct
  intro other _ upTo
  by_cases same : other = row
  · exact .inr same
  · left
    have high : ¬ true ≤ false := by decide
    simpa [Prod.Lex.toLex_le_toLex, same, high] using upTo

/-- When a page ends within a key, a row with the key can be missed: it is the
last of them for the pages before and the first for the pages after. -/
theorem exists_missed {value : Key} (distinct : rows.Nodup)
    (splits : Splits key limit rows value) :
    ∃ (orders : Nat → Arrangement key) (row : Row), row ∈ rows ∧
      key row = value ∧
      ∀ number, row ∉ (orders number).page limit (number * limit) rows := by
  obtain ⟨last, before, after⟩ := splits
  have present : ∃ row ∈ rows, key row = value := by
    by_contra absent
    have same : rows.countP (fun row => key row ≤ value) ≤
        rows.countP fun row => key row < value := by
      apply List.countP_mono_left
      intro row member upTo
      have different : key row ≠ value :=
        fun same => absent ⟨row, member, same⟩
      simpa using lt_of_le_of_ne (of_decide_eq_true upTo) different
    omega
  obtain ⟨row, selected, rfl⟩ := present
  obtain ⟨lastOrder, behind⟩ := exists_last key distinct row
  obtain ⟨firstOrder, ahead⟩ := exists_first key distinct row
  refine ⟨fun number => if number < last then lastOrder else firstOrder, row,
    selected, rfl, ?_⟩
  intro number onPage
  obtain ⟨place, starts, ends, found⟩ := mem_page_iff.mp onPage
  dsimp only at found
  split at found
  case isTrue earlier =>
    have bound := behind place found
    have upTo : (number + 1) * limit ≤ last * limit :=
      Nat.mul_le_mul_right limit earlier
    rw [Nat.succ_mul] at upTo
    omega
  case isFalse later =>
    have bound := ahead place found
    have upTo : last * limit ≤ number * limit :=
      Nat.mul_le_mul_right limit (Nat.le_of_not_lt later)
    omega

/-- The pages show every row, whatever the arrangement of each, exactly when
none of them ends within a key. -/
theorem mem_pages_iff (distinct : rows.Nodup) (positive : 0 < limit) :
    (∀ orders : Nat → Arrangement key, ∀ row ∈ rows,
      ∃ number, row ∈ (orders number).page limit (number * limit) rows) ↔
    ∀ value, ¬ Splits key limit rows value := by
  constructor
  · intro shown value splits
    obtain ⟨orders, row, selected, _, missed⟩ := exists_missed distinct splits
    obtain ⟨number, onPage⟩ := shown orders row selected
    exact missed number onPage
  · intro whole orders row selected
    exact mem_pages orders positive (whole (key row)) selected

end

end Arrangement

end Query
