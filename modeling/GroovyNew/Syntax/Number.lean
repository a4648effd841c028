/-
# The types of number literals

An integer literal has the type that its suffix names (`L`, `G`, `I`), or the narrowest of `int`,
`long` and `java.math.BigInteger` that holds its value.  Its digits are hexadecimal after `0x`,
binary after `0b`, octal after any other leading zero and decimal otherwise; underscores between
them have no meaning.  A text that writes no number of at most 128 bits counts as `int`.

A literal with a fraction is a `double` or a `float` by its suffix, and otherwise a
`java.math.BigDecimal`.
-/

import GroovyNew.TypeRef.Basic

namespace GroovyNew
namespace Number

/-- The value of a digit, in lower case, below `radix`. -/
def digit? (radix : Nat) (c : Char) : Option Nat :=
  let value :=
    if c.isDigit then some (c.toNat - '0'.toNat)
    else if 'a' ≤ c && c ≤ 'z' then some (c.toNat - 'a'.toNat + 10)
    else none
  value.filter (· < radix)

/-- The value of digits after the digits of the value `n`. -/
def digits? (radix : Nat) : (n : Nat) → List Char → Option Nat
  | n, [] => some n
  | n, c :: cs =>
    match digit? radix c with
    | some d => digits? radix (n * radix + d) cs
    | none => none

/-- The number that digits write, with an optional plus sign.  There is at least one digit, and the
value has at most 128 bits. -/
def value? (radix : Nat) (cs : List Char) : Option Nat :=
  let ds := match cs with
    | '+' :: ds => ds
    | ds => ds
  if ds.isEmpty then none else (digits? radix 0 ds).filter (· < Nat.pow 2 128)

/-- The radix of digits in lower case, and the digits without its mark. -/
def radixOf : List Char → Nat × List Char
  | '0' :: 'x' :: cs => (16, cs)
  | '0' :: 'b' :: cs => (2, cs)
  | '0' :: c :: cs => (8, c :: cs)
  | cs => (10, cs)

/-- The narrowest type that holds a number. -/
def narrowest (n : Nat) : TypeRef :=
  if n < Nat.pow 2 31 then .raw "int"
  else if n < Nat.pow 2 63 then .raw "long"
  else .id "java.math.BigInteger"

/-- The type of an integer literal without suffix, given its digits in lower case. -/
def plainType (cs : List Char) : TypeRef :=
  match value? (radixOf cs).1 (radixOf cs).2 with
  | some n => narrowest n
  | none => .raw "int"

/-- The type that the suffix of an integer literal names. -/
def suffixType? : Option Char → Option TypeRef
  | some 'l' | some 'L' => some (.raw "long")
  | some 'g' | some 'G' => some (.id "java.math.BigInteger")
  | some 'i' | some 'I' => some (.raw "int")
  | _ => none

/-- The type of an integer literal. -/
def integerType (text : String) : TypeRef :=
  let cs := text.toList.filter (· != '_')
  (suffixType? cs.getLast?).getD (plainType (cs.map Char.toLower))

/-- The type of a literal with a fraction. -/
def decimalType (text : String) : TypeRef :=
  match text.toList.getLast? with
  | some 'd' | some 'D' => .raw "double"
  | some 'f' | some 'F' => .raw "float"
  | _ => .id "java.math.BigDecimal"

end Number
end GroovyNew
