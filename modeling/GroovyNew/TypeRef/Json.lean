/-
# The JSON form of types

A type is written as an object with the member `kind` and, apart from the unknown type, the member
`data`.  A type may also be read from an array of the two.  Bindings are written as an object with a
member for each name.

Reading accepts the two members in either order.  The data can be read as it comes once the kind is
known; data that stands before the kind is held until then.  Two things follow for held data: all of
it must be readable, members included that are ignored otherwise, and the kind of a type in it may
be written as a variant with an empty object where `null` is expected.
-/

import GroovyNew.Json.Record
import GroovyNew.TypeRef.Bindings

namespace GroovyNew
namespace TypeRef

/-- The object for a kind of type and its data. -/
def tagged (kind : String) (data : Json) : Json :=
  .record [("kind", .text kind), ("data", data)]

mutual

/-- Writes a type. -/
def toJson : TypeRef → Json
  | .raw name => tagged "Raw" (.text name)
  | .id name => tagged "Id" (.text name)
  | .generic base args =>
    tagged "Generic" (.record [("base", base.toJson), ("args", .arr (listToJson args))])
  | .array element dimensions =>
    tagged "Array" (.record [("element", element.toJson), ("dimensions", .nat dimensions)])
  | .wildcard none isUpper =>
    tagged "Wildcard" (.record [("bound", .null), ("is_upper_bound", .bool isUpper)])
  | .wildcard (some bound) isUpper =>
    tagged "Wildcard" (.record [("bound", bound.toJson), ("is_upper_bound", .bool isUpper)])
  | .map entries => tagged "Map" (.record [("entries", .arr (entriesToJson entries))])
  | .unknown => .record [("kind", .text "Unknown")]

/-- Writes each of some types. -/
def listToJson : List TypeRef → List Json
  | [] => []
  | t :: ts => t.toJson :: listToJson ts

/-- Writes each of some labelled types as a pair. -/
def entriesToJson : List (String × TypeRef) → List Json
  | [] => []
  | (label, t) :: es => .arr [.text label, t.toJson] :: entriesToJson es

end

/-- The members `base` and `args` as far as they have been read. -/
structure GenericData where
  base : Option TypeRef := none
  args : Option (List TypeRef) := none

/-- The members `element` and `dimensions` as far as they have been read. -/
structure ArrayData where
  element : Option TypeRef := none
  dimensions : Option Nat := none

/-- The members `bound` and `is_upper_bound` as far as they have been read. -/
structure WildcardData where
  bound : Option (Option TypeRef) := none
  isUpper : Option Bool := none

/-- The name of a kind of type, in held data or outside. -/
def kindName? (held : Bool) (v : Json) : Option String :=
  match held, v with
  | true, .obj [(some name, .obj [])] => some name
  | _, v => v.bareVariant?

/-- The member `data` stands before the member `kind`. -/
def isDataFirst : Json.Members → Bool
  | [] => false
  | (key, _) :: ms => key == some "data" || (key != some "kind" && isDataFirst ms)

mutual

/-- Reads a type, in held data or outside. -/
def read (held : Bool) : Json → Option TypeRef
  | .obj ms =>
    if Json.Record.wellFormed ["kind", "data"] ms then
      match Json.Record.required ms "kind" (kindName? held) with
      | none => none
      | some kind =>
        match Json.Record.get? ms "data" with
        | none => if kind == "Unknown" then some .unknown else none
        | some _ => readDataMember (held || isDataFirst ms) kind ms
    else none
  | .arr [kind, data] =>
    match kindName? held kind with
    | none => none
    | some kind => readData held kind data
  | _ => none

/-- Reads the member `data` of a type of the given kind. -/
def readDataMember (held : Bool) (kind : String) : Json.Members → Option TypeRef
  | [] => none
  | (key, v) :: ms =>
    if key == some "data" then
      if held && !v.isReadable then none else readData held kind v
    else readDataMember held kind ms

/-- Reads the data of a type of the given kind. -/
def readData (held : Bool) (kind : String) : Json → Option TypeRef
  | .text s => match kind with
    | "Raw" => some (.raw s)
    | "Id" => some (.id s)
    | _ => none
  | .null => if kind == "Unknown" then some .unknown else none
  | .obj ms => match kind with
    | "Generic" => readGeneric held ⟨none, none⟩ ms
    | "Array" => readArray held ⟨none, none⟩ ms
    | "Wildcard" => readWildcard held ⟨none, none⟩ ms
    | "Map" => readMap held none ms
    | _ => none
  | _ => none

/-- Reads the data of a generic type, member by member. -/
def readGeneric (held : Bool) (data : GenericData) : Json.Members → Option TypeRef
  | [] => match data with
    | ⟨some base, some args⟩ => some (.generic base args)
    | _ => none
  | (none, _) :: _ => none
  | (some "base", v) :: ms => match data.base, read held v with
    | none, some base => readGeneric held { data with base := some base } ms
    | _, _ => none
  | (some "args", .arr items) :: ms => match data.args, readList held items with
    | none, some args => readGeneric held { data with args := some args } ms
    | _, _ => none
  | (some key, _) :: ms => if key == "args" then none else readGeneric held data ms

/-- Reads the data of an array type, member by member. -/
def readArray (held : Bool) (data : ArrayData) : Json.Members → Option TypeRef
  | [] => match data with
    | ⟨some element, some dimensions⟩ => some (.array element dimensions)
    | _ => none
  | (none, _) :: _ => none
  | (some "element", v) :: ms => match data.element, read held v with
    | none, some element => readArray held { data with element := some element } ms
    | _, _ => none
  | (some "dimensions", v) :: ms => match data.dimensions, v.natBelow? 64 with
    | none, some n => readArray held { data with dimensions := some n } ms
    | _, _ => none
  | (some _, _) :: ms => readArray held data ms

/-- Reads the data of a wildcard, member by member; its bound may be absent. -/
def readWildcard (held : Bool) (data : WildcardData) : Json.Members → Option TypeRef
  | [] => match data with
    | ⟨bound, some isUpper⟩ => some (.wildcard (bound.getD none) isUpper)
    | _ => none
  | (none, _) :: _ => none
  | (some "bound", .null) :: ms => match data.bound with
    | none => readWildcard held { data with bound := some none } ms
    | _ => none
  | (some "bound", v) :: ms => match data.bound, read held v with
    | none, some bound => readWildcard held { data with bound := some (some bound) } ms
    | _, _ => none
  | (some "is_upper_bound", v) :: ms => match data.isUpper, v.bool? with
    | none, some b => readWildcard held { data with isUpper := some b } ms
    | _, _ => none
  | (some _, _) :: ms => readWildcard held data ms

/-- Reads the data of a map type, member by member. -/
def readMap (held : Bool) (entries : Option (List (String × TypeRef))) :
    Json.Members → Option TypeRef
  | [] => entries.map .map
  | (none, _) :: _ => none
  | (some "entries", .arr items) :: ms => match entries, readEntries held items with
    | none, some es => readMap held (some es) ms
    | _, _ => none
  | (some key, _) :: ms => if key == "entries" then none else readMap held entries ms

/-- Reads each of some types. -/
def readList (held : Bool) : List Json → Option (List TypeRef)
  | [] => some []
  | v :: vs => match read held v, readList held vs with
    | some t, some ts => some (t :: ts)
    | _, _ => none

/-- Reads each of some labelled types. -/
def readEntries (held : Bool) : List Json → Option (List (String × TypeRef))
  | [] => some []
  | .arr [.text label, v] :: vs => match read held v, readEntries held vs with
    | some t, some es => some ((label, t) :: es)
    | _, _ => none
  | _ :: _ => none

end

/-- Reads a type. -/
def ofJson? (v : Json) : Option TypeRef := read false v

end TypeRef

namespace Bindings

/-- Writes bindings as an object. -/
def toJson (s : Bindings) : Json := .record (s.entries.map fun e => (e.1, e.2.toJson))

/-- Reads bindings from an object; a name written twice has its last type. -/
def ofJson? (v : Json) : Option Bindings := do
  let entries ← (← v.members?).mapM fun m => do return (← m.1, ← TypeRef.ofJson? m.2)
  return empty.insertAll entries

end Bindings
end GroovyNew
