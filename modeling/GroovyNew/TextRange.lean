/-
# Ranges of a text

A range of offsets, its end excluded.  A range whose end lies before its start is empty.
-/

namespace GroovyNew

/-- A range of offsets. -/
structure TextRange where
  start : Nat
  stop : Nat
  deriving DecidableEq, Inhabited, Repr

namespace TextRange

/-- The empty range at the start of a text. -/
def empty : TextRange := ⟨0, 0⟩

/-- The number of offsets in a range. -/
def length (r : TextRange) : Nat := r.stop - r.start

/-- No offset is in the range. -/
def isEmpty (r : TextRange) : Bool := r.stop ≤ r.start

/-- The offset is in the range. -/
def contains (r : TextRange) (offset : Nat) : Bool := r.start ≤ offset && offset < r.stop

theorem isEmpty_iff_length {r : TextRange} : r.isEmpty = true ↔ r.length = 0 := by
  simp only [isEmpty, length, decide_eq_true_eq]; omega

theorem not_contains_of_isEmpty {r : TextRange} (h : r.isEmpty = true) (offset : Nat) :
    r.contains offset = false := by
  simp only [isEmpty, contains, decide_eq_true_eq, Bool.and_eq_false_iff, decide_eq_false_iff_not]
    at *
  omega

end TextRange
end GroovyNew
