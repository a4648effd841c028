/-
# Decoding records

A record is an object with known members, or an array of the values of these members in their order.
Decoding an object follows four rules:

* a member that the record does not know is ignored, whatever it holds;
* a known member written twice is refused;
* a member without default must be present; one with a default may be absent, but `null` does not
  stand for the default;
* `null` stands for absence only where the member may be absent by its type (`Record.maybe`).

In an array only members at the end may be absent, and only if they have a default; a value too many
is refused.

Every function answers `none` for a value that does not have the expected shape.
-/

import GroovyNew.Json.Basic

namespace GroovyNew
namespace Json

/-- A string. -/
def string? : Json → Option String
  | .text s => some s
  | _ => none

/-- A truth value. -/
def bool? : Json → Option Bool
  | .bool b => some b
  | _ => none

/-- An integer. -/
def int? : Json → Option Int
  | .int n => some n
  | _ => none

/-- A natural number below `2 ^ bits`. -/
def natBelow? (bits : Nat) (v : Json) : Option Nat := do
  let n ← v.int?
  if 0 ≤ n && n < Nat.pow 2 bits then some n.toNat else none

/-- An integer that fits `bits` bits with a sign. -/
def signed? (bits : Nat) (v : Json) : Option Int := do
  let n ← v.int?
  let bound : Int := Nat.pow 2 (bits - 1)
  if -bound ≤ n && n < bound then some n else none

/-- The items of an array. -/
def items? : Json → Option (List Json)
  | .arr items => some items
  | _ => none

/-- The members of an object. -/
def members? : Json → Option Members
  | .obj members => some members
  | _ => none

/-- An array whose items all decode. -/
def list? {α : Type} (decode : Json → Option α) (v : Json) : Option (List α) := do
  (← v.items?).mapM decode

/-- An array of strings. -/
def strings? (v : Json) : Option (List String) := v.list? string?

/-- A value, or `null` for its absence. -/
def maybe? {α : Type} (decode : Json → Option α) : Json → Option (Option α)
  | .null => some none
  | v => (decode v).map some

/-- The variant that a value names: a string for a variant without payload, an object with exactly
one member for any variant. -/
def variant? : Json → Option (String × Option Json)
  | .text tag => some (tag, none)
  | .obj [(some tag, payload)] => some (tag, some payload)
  | _ => none

/-- What stands beside the name of a variant without payload: nothing or `null`. -/
def isUnit : Option Json → Bool
  | none | some .null => true
  | _ => false

/-- A variant without payload. -/
def bareVariant? (v : Json) : Option String := do
  let (name, payload) ← v.variant?
  if isUnit payload then some name else none

namespace Record

/-- The values written under the name `key`. -/
def values (ms : Members) (key : String) : List Json :=
  (ms.filter fun m => m.1 == some key).map (·.2)

/-- Every name has a text, and each of the known names is written at most once. -/
def wellFormed (known : List String) (ms : Members) : Bool :=
  (ms.all fun m => m.1.isSome) && known.all fun key => (values ms key).length ≤ 1

/-- The members of a record with the known names.  The first `least` of them, up to the last one
without default, must be present in an array. -/
def members? (least : Nat) (known : List String) : Json → Option Members
  | .obj ms => if wellFormed known ms then some ms else none
  | .arr items =>
    if least ≤ items.length && items.length ≤ known.length then
      some ((known.zip items).map fun m => (some m.1, m.2))
    else none
  | _ => none

/-- The value of a member, if it is present. -/
def get? (ms : Members) (key : String) : Option Json := (values ms key).head?

/-- A member that must be present. -/
def required {α : Type} (ms : Members) (key : String) (decode : Json → Option α) : Option α := do
  decode (← get? ms key)

/-- A member with a default for its absence. -/
def defaulted {α : Type} (ms : Members) (key : String) (default : α) (decode : Json → Option α) :
    Option α :=
  match get? ms key with
  | none => some default
  | some v => decode v

/-- A member that may be absent or `null`. -/
def maybe {α : Type} (ms : Members) (key : String) (decode : Json → Option α) :
    Option (Option α) :=
  defaulted ms key none (maybe? decode)

end Record
end Json
end GroovyNew
