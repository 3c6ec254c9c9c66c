/-!
# Columns an object-relational session writes back

A session keeps the row it has loaded.  A flush writes the columns whose value
differs from the one the session knows, and leaves the others as they are in
the table by then, whoever wrote them.
-/

universe u

namespace Column

variable {Value : Type u} [DecidableEq Value]

/-- The column after a flush that sets it to `new`, when the session knows it
as `known` and the table holds `current`. -/
def write (known current new : Value) : Value :=
  if new = known then current else new

@[simp] theorem write_known (known current : Value) :
    write known current known = current := by
  simp [write]

theorem write_of_ne {known current new : Value} (changed : new ≠ known) :
    write known current new = new := by
  simp [write, changed]

@[simp] theorem write_self (value new : Value) :
    write value value new = new := by
  by_cases same : new = value <;> simp [write, same]

theorem write_cases (known current new : Value) :
    write known current new = current ∨ write known current new = new := by
  by_cases same : new = known
  · exact .inl (by simp [write, same])
  · exact .inr (write_of_ne same)

end Column
