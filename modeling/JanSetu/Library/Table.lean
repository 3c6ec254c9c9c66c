import Mathlib.Data.List.AList
import Mathlib.Data.List.Perm.Subperm

/-!
# Tables with a primary key

A table maps each key to at most one row.  The operations are those a
relational store runs as one statement: a lookup by primary key, the insertion
or replacement of one row, `UPDATE ... WHERE` over all rows, and
`SELECT ... WHERE` with the keys of the rows it selects.
-/

universe u v

structure Table (Key : Type u) (Row : Type v) where
  rows : AList (fun _ : Key => Row)

namespace Table

variable {Key : Type u} {Row : Type v} [DecidableEq Key]

instance [DecidableEq Row] : DecidableEq (Table Key Row) :=
  fun left right =>
    decidable_of_iff (left.rows = right.rows)
      ⟨fun same => by cases left; cases right; cases same; rfl,
        fun same => same ▸ rfl⟩

def empty : Table Key Row :=
  { rows := ∅ }

def find (table : Table Key Row) (key : Key) : Option Row :=
  table.rows.lookup key

def put (table : Table Key Row) (key : Key) (row : Row) : Table Key Row :=
  { rows := table.rows.insert key row }

/-- The rows of a list, of which the first with a key counts. -/
def ofList (rows : List (Key × Row)) : Table Key Row :=
  rows.foldr (fun entry table => table.put entry.1 entry.2) empty

/-- `UPDATE` of every row that `test` selects. -/
def updateWhere (table : Table Key Row) (test : Key → Row → Bool)
    (change : Row → Row) : Table Key Row :=
  { rows :=
      { entries := table.rows.entries.map
          (Sigma.map id fun key row =>
            if test key row then change row else row)
        nodupKeys := table.rows.nodupKeys.map₂ _ _ } }

/-- The keys of the rows that `test` selects. -/
def select (table : Table Key Row) (test : Key → Row → Bool) : List Key :=
  (table.rows.entries.filter fun entry => test entry.1 entry.2).map (·.1)

def count (table : Table Key Row) (test : Key → Row → Bool) : Nat :=
  (table.select test).length

/-- The first row that `test` selects, with its key. -/
def first (table : Table Key Row) (test : Key → Row → Bool) :
    Option (Key × Row) :=
  (table.rows.entries.find? fun entry => test entry.1 entry.2).map
    fun entry => (entry.1, entry.2)

@[simp] theorem find_empty (key : Key) :
    (empty : Table Key Row).find key = none :=
  AList.lookup_empty key

@[simp] theorem find_put_self (table : Table Key Row) (key : Key)
    (row : Row) : (table.put key row).find key = some row :=
  AList.lookup_insert _

theorem find_put_of_ne (table : Table Key Row) {key other : Key} (row : Row)
    (different : other ≠ key) :
    (table.put key row).find other = table.find other :=
  AList.lookup_insert_ne different

theorem find_put (table : Table Key Row) (key other : Key) (row : Row) :
    (table.put key row).find other =
      if other = key then some row else table.find other := by
  by_cases same : other = key
  · simp [same]
  · simp [find_put_of_ne table row same, same]

theorem mem_of_find_ofList {rows : List (Key × Row)} {key : Key} {row : Row}
    (found : (ofList rows).find key = some row) : (key, row) ∈ rows := by
  induction rows with
  | nil => simp [ofList] at found
  | cons entry rows induction =>
      unfold ofList at found
      rw [List.foldr_cons, find_put] at found
      split at found
      case isTrue same =>
        cases found
        subst same
        exact List.mem_cons_self
      case isFalse => exact List.mem_cons_of_mem _ (induction found)

theorem find_updateWhere (table : Table Key Row) (test : Key → Row → Bool)
    (change : Row → Row) (key : Key) :
    (table.updateWhere test change).find key =
      (table.find key).map fun row =>
        if test key row then change row else row :=
  List.dlookup_map₂ key

theorem mem_entries_iff {table : Table Key Row} {key : Key} {row : Row} :
    ⟨key, row⟩ ∈ table.rows.entries ↔ table.find key = some row :=
  (List.mem_dlookup_iff table.rows.nodupKeys).symm

theorem mem_select {table : Table Key Row} {test : Key → Row → Bool}
    {key : Key} :
    key ∈ table.select test ↔
      ∃ row, table.find key = some row ∧ test key row = true := by
  simp only [select, List.mem_map, List.mem_filter]
  constructor
  · rintro ⟨⟨found, row⟩, ⟨member, passes⟩, rfl⟩
    exact ⟨row, mem_entries_iff.mp member, passes⟩
  · rintro ⟨row, found, passes⟩
    exact ⟨⟨key, row⟩, ⟨mem_entries_iff.mpr found, passes⟩, rfl⟩

theorem first_eq_some {table : Table Key Row} {test : Key → Row → Bool}
    {key : Key} {row : Row} (found : table.first test = some (key, row)) :
    table.find key = some row ∧ test key row = true := by
  simp only [first, Option.map_eq_some_iff] at found
  obtain ⟨⟨foundKey, foundRow⟩, selected, same⟩ := found
  simp only [Prod.mk.injEq] at same
  obtain ⟨rfl, rfl⟩ := same
  have member := List.mem_of_find?_eq_some selected
  have passes := List.find?_some selected
  exact ⟨mem_entries_iff.mp member, passes⟩

theorem first_eq_none {table : Table Key Row} {test : Key → Row → Bool}
    (nothing : table.first test = none) {key : Key} {row : Row}
    (found : table.find key = some row) : test key row = false := by
  simp only [first, Option.map_eq_none_iff, List.find?_eq_none] at nothing
  have refused := nothing ⟨key, row⟩ (mem_entries_iff.mpr found)
  simpa using refused

/-- The row of a key is counted apart from the other rows. -/
theorem length_filter_kerase (test : Key → Row → Bool) (key : Key)
    (entries : List (Sigma fun _ : Key => Row)) :
    ((entries.kerase key).filter fun entry => test entry.1 entry.2).length +
        ((entries.dlookup key).any (test key)).toNat =
      (entries.filter fun entry => test entry.1 entry.2).length := by
  induction entries with
  | nil => rfl
  | cons entry entries induction =>
      obtain ⟨found, row⟩ := entry
      by_cases same : key = found
      · subst same
        have erased : List.kerase key (⟨key, row⟩ :: entries) = entries :=
          List.kerase_cons_eq rfl
        rw [erased, List.dlookup_cons_eq, List.filter_cons]
        cases passes : test key row
        · simp [passes]
        · simp [passes]
      · have lookup : List.dlookup key (⟨found, row⟩ :: entries) =
            List.dlookup key entries := List.dlookup_cons_ne _ _ same
        have kept : List.kerase key (⟨found, row⟩ :: entries) =
            ⟨found, row⟩ :: List.kerase key entries :=
          List.kerase_cons_ne same
        rw [kept, lookup, List.filter_cons, List.filter_cons]
        cases passes : test found row
        · simpa [passes] using induction
        · simp only [if_true, List.length_cons]
          omega

/-- How the write of one row changes a count. -/
theorem count_put (table : Table Key Row) (key : Key) (row : Row)
    (test : Key → Row → Bool) :
    (table.put key row).count test + ((table.find key).any (test key)).toNat =
      table.count test + (test key row).toNat := by
  have apart := length_filter_kerase test key table.rows.entries
  have inserted : (table.put key row).count test =
      (List.filter (fun entry => test entry.1 entry.2)
        (⟨key, row⟩ :: table.rows.entries.kerase key)).length := by
    simp only [count, select, List.length_map]
    rfl
  have before : table.count test =
      (table.rows.entries.filter fun entry => test entry.1 entry.2).length := by
    simp only [count, select, List.length_map]
  rw [inserted, before, ← apart, List.filter_cons]
  have found : table.find key = table.rows.entries.dlookup key := rfl
  rw [found]
  cases test key row
  · simp
  · simp
    omega

omit [DecidableEq Key] in
theorem nodup_select (table : Table Key Row) (test : Key → Row → Bool) :
    (table.select test).Nodup :=
  table.rows.nodupKeys.sublist List.filter_sublist

/-- A count is determined by which keys have a row that passes. -/
theorem count_le_of_find {left right : Table Key Row}
    {test other : Key → Row → Bool}
    (passes : ∀ key, (left.find key).any (test key) = true →
      (right.find key).any (other key) = true) :
    left.count test ≤ right.count other := by
  have inside : left.select test ⊆ right.select other := by
    intro key member
    obtain ⟨row, found, passed⟩ := mem_select.mp member
    have selected := passes key (by rw [found]; exact passed)
    obtain ⟨row', found', passed'⟩ := (Option.any_eq_true _ _).mp selected
    exact mem_select.mpr ⟨row', found', passed'⟩
  exact (List.subperm_of_subset (left.nodup_select test) inside).length_le

theorem count_eq_of_find {left right : Table Key Row}
    {test other : Key → Row → Bool}
    (same : ∀ key, (left.find key).any (test key) =
      (right.find key).any (other key)) :
    left.count test = right.count other :=
  Nat.le_antisymm (count_le_of_find fun key => by rw [same key]; exact id)
    (count_le_of_find fun key => by rw [same key]; exact id)

/-- Rows that are changed in place pass as before. -/
theorem count_of_map {left right : Table Key Row} {test : Key → Row → Bool}
    {change : Key → Row → Row}
    (found : ∀ key, right.find key = (left.find key).map (change key))
    (same : ∀ key row, test key (change key row) = test key row) :
    right.count test = left.count test := by
  apply count_eq_of_find
  intro key
  rw [found key]
  cases left.find key with
  | none => rfl
  | some row => exact same key row

theorem count_put_fresh {table : Table Key Row} {key : Key}
    (absent : table.find key = none) (row : Row) (test : Key → Row → Bool) :
    (table.put key row).count test =
      table.count test + (test key row).toNat := by
  have counts := table.count_put key row test
  rw [absent] at counts
  exact counts

theorem count_put_same {table : Table Key Row} {key : Key} {row new : Row}
    {test : Key → Row → Bool} (found : table.find key = some row)
    (same : test key new = test key row) :
    (table.put key new).count test = table.count test := by
  have counts := table.count_put key new test
  rw [found, Option.any_some, same] at counts
  omega

end Table
