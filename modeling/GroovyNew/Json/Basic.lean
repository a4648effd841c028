/-
# JSON values

A JSON value as it is read from a text.  Three things that the text shows are kept, because decoding
depends on them:

* an object is the list of its members in their order, a name written twice occurring twice;
* a number is an integer of 64 bits, written without fraction and exponent, or any other number,
  whose value nothing here needs (`Json.fractional`; the integer text `-0` counts as one);
* some parts of a well-formed text stand for no value (`Json.unreadable`): a string whose escapes
  name half of a surrogate pair, a number beyond the double range, an array or object that is nested
  too deeply.  They may stand where the value is ignored and nowhere else.  The name of a member has
  the same exception: it is `none` if it names half of a surrogate pair.
-/

namespace GroovyNew

/-- A JSON value. -/
inductive Json where
  | null
  | bool (b : Bool)
  | int (n : Int)
  | fractional
  /-- A string. -/
  | text (s : String)
  /-- Part of a text that stands for no value. -/
  | unreadable
  | arr (items : List Json)
  | obj (members : List (Option String × Json))
  deriving Inhabited, Repr

namespace Json

/-- The members of an object, in the order in which they are written. -/
abbrev Members := List (Option String × Json)

/-- A natural number as a value. -/
def nat (n : Nat) : Json := .int n

/-- An object with the given members. -/
def record (members : List (String × Json)) : Json :=
  .obj (members.map fun m => (some m.1, m.2))

/-- A list of strings as an array. -/
def texts (items : List String) : Json := .arr (items.map text)

/-- A value that may be absent; absence is `null`. -/
def optional {α : Type} (write : α → Json) : Option α → Json
  | none => .null
  | some a => write a

/-- A variant with a payload: an object whose only member is named for the variant. -/
def variant (tag : String) (payload : Json) : Json := record [(tag, payload)]

mutual

/-- Nothing in the value is unreadable. -/
def isReadable : Json → Bool
  | .unreadable => false
  | .arr items => areReadable items
  | .obj members => haveReadable members
  | _ => true

/-- Nothing in the items is unreadable. -/
def areReadable : List Json → Bool
  | [] => true
  | v :: vs => isReadable v && areReadable vs

/-- Nothing in the members, names included, is unreadable. -/
def haveReadable : List (Option String × Json) → Bool
  | [] => true
  | (key, v) :: ms => key.isSome && isReadable v && haveReadable ms

end

/-- The value with what is nested more than `levels` deep made unreadable: each array or object is
one level. -/
def limit : (levels : Nat) → Json → Json
  | 0, .arr _ | 0, .obj _ => .unreadable
  | levels + 1, .arr items => .arr (items.map (limit levels))
  | levels + 1, .obj members => .obj (members.map fun m => (m.1, limit levels m.2))
  | _, v => v

end Json
end GroovyNew
