/-
# Blank characters

The characters that separate the words of a type text without being part of it: the property
`White_Space` of Unicode, twenty-five characters.  It is larger than the four ASCII blanks of
`Char.isWhitespace`, which it contains.
-/

import GroovyNew.Text.Range

namespace GroovyNew
namespace Text

/-- The ranges of the Unicode property `White_Space`. -/
def blankRanges : Ranges :=
  [(0x9, 0xD), (0x20, 0x20), (0x85, 0x85), (0xA0, 0xA0), (0x1680, 0x1680), (0x2000, 0x200A),
   (0x2028, 0x2029), (0x202F, 0x202F), (0x205F, 0x205F), (0x3000, 0x3000)]

/-- A blank character. -/
def isBlank (c : Char) : Bool := blankRanges.has c

theorem isBlank_of_isWhitespace {c : Char} (h : c.isWhitespace = true) : isBlank c = true := by
  simp only [Char.isWhitespace, Bool.or_eq_true, decide_eq_true_eq] at h
  rcases h with ((rfl | rfl) | rfl) | rfl <;> decide

end Text
end GroovyNew
