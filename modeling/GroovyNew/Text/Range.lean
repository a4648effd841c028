/-
# Sets of characters given by code point ranges

A Unicode property is a list of closed ranges of code points in increasing order.  The property
tables of this library (`Text.Blank`, `Text.Word`, `Text.Width`, `Text.Emoji`) are such lists, and
membership is a search from the left.
-/

namespace GroovyNew
namespace Text

/-- A set of code points: closed ranges, first and last. -/
abbrev Ranges := List (Nat × Nat)

/-- The character lies in one of the ranges. -/
def Ranges.has (ranges : Ranges) (c : Char) : Bool :=
  ranges.any fun range => range.1 ≤ c.toNat && c.toNat ≤ range.2

theorem Ranges.has_iff {ranges : Ranges} {c : Char} :
    ranges.has c = true ↔ ∃ range ∈ ranges, range.1 ≤ c.toNat ∧ c.toNat ≤ range.2 := by
  simp [Ranges.has]

end Text
end GroovyNew
