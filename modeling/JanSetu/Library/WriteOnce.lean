import JanSetu.Library.Table

/-!
# Tables whose rows are written once

`INSERT ... ON CONFLICT DO NOTHING` keeps the row that is there.  A table that
is written in no other way only grows, so what has once been read of it stays
true.
-/

universe u v

namespace Table

variable {Key : Type u} {Row : Type v} [DecidableEq Key]

/-- `INSERT ... ON CONFLICT DO NOTHING`. -/
def putNew (table : Table Key Row) (key : Key) (row : Row) : Table Key Row :=
  match table.find key with
  | some _ => table
  | none => table.put key row

/-- Every row is still there. -/
def Extends (later earlier : Table Key Row) : Prop :=
  ∀ key row, earlier.find key = some row → later.find key = some row

variable {table earlier middle later : Table Key Row} {key other : Key}
  {row found : Row}

theorem Extends.refl (table : Table Key Row) : table.Extends table :=
  fun _ _ found => found

theorem Extends.trans (second : later.Extends middle)
    (first : middle.Extends earlier) : later.Extends earlier :=
  fun key row found => second key row (first key row found)

theorem putNew_extends (table : Table Key Row) (key : Key) (row : Row) :
    (table.putNew key row).Extends table := by
  intro other found before
  unfold putNew
  split
  case h_1 => exact before
  case h_2 absent =>
    rw [find_put_of_ne _ _ ?_]
    · exact before
    · rintro rfl
      rw [absent] at before
      cases before

/-- A row is one that was there, or the new one. -/
theorem find_putNew (is : (table.putNew key row).find other = some found) :
    table.find other = some found ∨ other = key ∧ found = row := by
  unfold putNew at is
  split at is
  case h_1 => exact .inl is
  case h_2 =>
    rw [find_put] at is
    split at is
    case isTrue same => exact .inr ⟨same, (Option.some.inj is).symm⟩
    case isFalse => exact .inl is

end Table
