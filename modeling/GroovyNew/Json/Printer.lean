/-
# Writing JSON

Two forms.  `Json.compact` writes no blanks and orders the members of every object by their names,
so that equal records have equal texts.  `Json.pretty` keeps the members in their order, one member
or item a line, indented by two blanks a level.

Text is written as it is, apart from the quote, the backslash and control characters.
-/

import GroovyNew.Json.Basic

namespace GroovyNew
namespace Json

/-- One hexadecimal digit, in lower case. -/
def hexDigit (n : Nat) : Char := if n < 10 then Char.ofNat (48 + n) else Char.ofNat (87 + n)

/-- The characters that write the character `c` inside a string. -/
def escapeChar (c : Char) : List Char :=
  if c == '"' then ['\\', '"']
  else if c == '\\' then ['\\', '\\']
  else if c == '\n' then ['\\', 'n']
  else if c == '\r' then ['\\', 'r']
  else if c == '\t' then ['\\', 't']
  else if c == '\x08' then ['\\', 'b']
  else if c == '\x0c' then ['\\', 'f']
  else if c.toNat < 0x20 then
    ['\\', 'u', '0', '0', hexDigit (c.toNat / 16), hexDigit (c.toNat % 16)]
  else [c]

/-- A string with its quotes. -/
def quote (s : String) : String := "\"" ++ String.ofList (s.toList.flatMap escapeChar) ++ "\""

/-- The name of a member in the order of names; a name without text comes first. -/
def keyText (key : Option String) : String := key.getD ""

mutual

/-- The value with the members of every object ordered by name. -/
def sorted : Json → Json
  | .arr items => .arr (sortedItems items)
  | .obj members =>
    .obj ((sortedMembers members).mergeSort fun a b => keyText a.1 ≤ keyText b.1)
  | v => v

/-- `sorted` on each item. -/
def sortedItems : List Json → List Json
  | [] => []
  | v :: vs => sorted v :: sortedItems vs

/-- `sorted` on each value. -/
def sortedMembers : Members → Members
  | [] => []
  | (key, v) :: ms => (key, sorted v) :: sortedMembers ms

end

/-- The text of a value that is neither array nor object.  A fractional number and an unreadable
part are written as one of their kind. -/
def scalar : Json → String
  | .null => "null"
  | .bool true => "true"
  | .bool false => "false"
  | .int n => toString n
  | .fractional => "0.0"
  | .text s => quote s
  | .unreadable => "1e999"
  | .arr _ => "[]"
  | .obj _ => "\x7b\x7d"

mutual

/-- The value without blanks, members in their order. -/
def plain : Json → String
  | .arr items => "[" ++ plainItems items ++ "]"
  | .obj members => "\x7b" ++ plainMembers members ++ "\x7d"
  | v => scalar v

/-- Items joined by commas. -/
def plainItems : List Json → String
  | [] => ""
  | [v] => plain v
  | v :: vs => plain v ++ "," ++ plainItems vs

/-- Members joined by commas. -/
def plainMembers : Members → String
  | [] => ""
  | [(key, v)] => quote (keyText key) ++ ":" ++ plain v
  | (key, v) :: ms => quote (keyText key) ++ ":" ++ plain v ++ "," ++ plainMembers ms

end

/-- The compact form, members ordered by name. -/
def compact (v : Json) : String := plain (sorted v)

/-- A line break and the indentation of the given level. -/
def newline (level : Nat) : String := "\n" ++ String.ofList (List.replicate (2 * level) ' ')

mutual

/-- The value spread over lines, its first line standing at the given level. -/
def prettyAt (level : Nat) : Json → String
  | .arr [] => "[]"
  | .arr items => "[" ++ prettyItems (level + 1) items ++ newline level ++ "]"
  | .obj [] => "\x7b\x7d"
  | .obj members => "\x7b" ++ prettyMembers (level + 1) members ++ newline level ++ "\x7d"
  | v => scalar v

/-- Items, each on a line of its own. -/
def prettyItems (level : Nat) : List Json → String
  | [] => ""
  | [v] => newline level ++ prettyAt level v
  | v :: vs => newline level ++ prettyAt level v ++ "," ++ prettyItems level vs

/-- Members, each on a line of its own. -/
def prettyMembers (level : Nat) : Members → String
  | [] => ""
  | [(key, v)] => newline level ++ quote (keyText key) ++ ": " ++ prettyAt level v
  | (key, v) :: ms =>
    newline level ++ quote (keyText key) ++ ": " ++ prettyAt level v ++ "," ++
      prettyMembers level ms

end

/-- The form for readers: indented, members in their order. -/
def pretty (v : Json) : String := prettyAt 0 v

end Json
end GroovyNew
