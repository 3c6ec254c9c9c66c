import Mathlib.Data.List.MinMax

/-!
# The nearest within a radius

A search goes through rows whose distance may be unknown, and keeps a row that
lies within the radius and is strictly nearer than the best one so far.  It
finds a nearest row.  Behind a prefilter it does so exactly if the prefilter
keeps one.
-/

universe u v

namespace Nearest

variable {Row : Type u} {Length : Type v} [LinearOrder Length]

/-- The step of the search. -/
def closer (distance : Row → Option Length) (radius : Length)
    (best : Option (Length × Row)) (row : Row) : Option (Length × Row) :=
  match distance row with
  | none => best
  | some length =>
      if length ≤ radius ∧ best.all (length < ·.1) then some (length, row)
      else best

def search (distance : Row → Option Length) (radius : Length)
    (rows : List Row) : Option (Length × Row) :=
  rows.foldl (closer distance radius) none

/-- A row of a known distance within the radius. -/
structure Within (distance : Row → Option Length) (radius : Length)
    (rows : List Row) (found : Length × Row) : Prop where
  member : found.2 ∈ rows
  known : distance found.2 = some found.1
  near : found.1 ≤ radius

/-- None of the rows within the radius is nearer. -/
def IsNearest (distance : Row → Option Length) (radius : Length)
    (rows : List Row) (found : Length × Row) : Prop :=
  Within distance radius rows found ∧
    ∀ other, Within distance radius rows other → found.1 ≤ other.1

/-- What a search is for. -/
def Exact (distance : Row → Option Length) (radius : Length)
    (rows : List Row) (result : Option (Length × Row)) : Prop :=
  (result.isSome = true ↔ ∃ other, Within distance radius rows other) ∧
    ∀ found, result = some found → IsNearest distance radius rows found

variable {distance : Row → Option Length} {radius : Length} {rows : List Row}

/-- The row with its distance, when it lies within the radius. -/
def measure (distance : Row → Option Length) (radius : Length) (row : Row) :
    Option (Length × Row) :=
  (distance row).bind fun length =>
    if length ≤ radius then some (length, row) else none

theorem mem_filterMap_measure {found : Length × Row} :
    found ∈ rows.filterMap (measure distance radius) ↔
      Within distance radius rows found := by
  obtain ⟨length, row⟩ := found
  rw [List.mem_filterMap]
  constructor
  · intro measured
    obtain ⟨candidate, member, measured⟩ := measured
    obtain ⟨exact, known, same⟩ := Option.bind_eq_some_iff.mp measured
    split at same
    case isTrue near =>
      cases same
      exact ⟨member, known, near⟩
    case isFalse => cases same
  · intro within
    refine ⟨row, within.member, ?_⟩
    unfold measure
    rw [within.known, Option.bind_some, if_pos within.near]

/-- The search is the least of the measured rows. -/
theorem search_eq_argmin :
    search distance radius rows =
      (rows.filterMap (measure distance radius)).argmin Prod.fst := by
  unfold search List.argmin
  rw [List.foldl_filterMap]
  congr 1
  funext best row
  unfold closer measure
  cases distance row with
  | none => rfl
  | some length =>
      rw [Option.bind_some]
      by_cases near : length ≤ radius
      · rw [if_pos near]
        cases best with
        | none => simp [near, List.argAux]
        | some current => simp [near, List.argAux]
      · simp [near]

theorem search_exact : Exact distance radius rows (search distance radius rows) := by
  rw [search_eq_argmin]
  constructor
  · rw [Option.isSome_iff_ne_none, Ne, List.argmin_eq_none,
      List.eq_nil_iff_forall_not_mem, not_forall_not]
    exact exists_congr fun found => mem_filterMap_measure
  · intro found least
    refine ⟨mem_filterMap_measure.mp (List.argmin_mem least), ?_⟩
    intro other within
    exact List.le_of_mem_argmin (mem_filterMap_measure.mpr within) least

theorem within_filter {keep : Row → Bool} {found : Length × Row} :
    Within distance radius (rows.filter keep) found ↔
      Within distance radius rows found ∧ keep found.2 = true := by
  constructor
  · intro within
    obtain ⟨member, kept⟩ := List.mem_filter.mp within.member
    exact ⟨⟨member, within.known, within.near⟩, kept⟩
  · intro both
    obtain ⟨within, kept⟩ := both
    exact ⟨List.mem_filter.mpr ⟨within.member, kept⟩, within.known, within.near⟩

/-- Behind a prefilter the search is exact if and only if the prefilter keeps
one of the nearest rows, where there are any. -/
theorem search_filter_exact {keep : Row → Bool} :
    Exact distance radius rows (search distance radius (rows.filter keep)) ↔
      ((∃ other, Within distance radius rows other) →
        ∃ found, IsNearest distance radius rows found ∧
          keep found.2 = true) := by
  have searched : Exact distance radius (rows.filter keep)
      (search distance radius (rows.filter keep)) := search_exact
  obtain ⟨finds, least⟩ := searched
  constructor
  · intro exact inside
    obtain ⟨found, searched⟩ := Option.isSome_iff_exists.mp (exact.1.mpr inside)
    obtain ⟨within, _⟩ := least found searched
    exact ⟨found, exact.2 found searched, (within_filter.mp within).2⟩
  · intro keeps
    have nearest : ∀ found,
        search distance radius (rows.filter keep) = some found →
        IsNearest distance radius rows found := by
      intro found searched
      obtain ⟨within, below⟩ := least found searched
      have inside := (within_filter.mp within).1
      refine ⟨inside, ?_⟩
      intro other reached
      -- The nearest row that was kept is not nearer than what was found.
      obtain ⟨kept, isNearest, passes⟩ := keeps ⟨found, inside⟩
      calc
        found.1 ≤ kept.1 := below kept (within_filter.mpr ⟨isNearest.1, passes⟩)
        _ ≤ other.1 := isNearest.2 other reached
    refine ⟨⟨?_, ?_⟩, nearest⟩
    · intro found
      obtain ⟨result, searched⟩ := Option.isSome_iff_exists.mp found
      exact ⟨result, (nearest result searched).1⟩
    · intro inside
      obtain ⟨kept, isNearest, passes⟩ := keeps inside
      exact finds.mpr ⟨kept, within_filter.mpr ⟨isNearest.1, passes⟩⟩

end Nearest
