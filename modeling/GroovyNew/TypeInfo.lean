/-
# What is known about classes and their members

`TypeInfo` describes a class, `MemberInfo` one of its members.  A class is *inner* when each of its
instances belongs to an instance of its outer class: a nested class that is not static, and neither
interface nor enum.
-/

import GroovyNew.TypeRef.Json
import GroovyNew.TypeRef.Word

namespace GroovyNew

/-- The kinds of types that can be declared. -/
inductive TypeKind where
  | classType
  | interfaceType
  | traitType
  | enumType
  | annotationType
  deriving DecidableEq, Inhabited, Repr

namespace TypeKind

/-- The kinds with their names. -/
def names : List (TypeKind × String) :=
  [(.classType, "class"), (.interfaceType, "interface"), (.traitType, "trait"), (.enumType, "enum"),
    (.annotationType, "annotation")]

/-- Writes a kind as its name. -/
def toJson : TypeKind → Json
  | .classType => .text "class"
  | .interfaceType => .text "interface"
  | .traitType => .text "trait"
  | .enumType => .text "enum"
  | .annotationType => .text "annotation"

/-- Reads a kind from its name. -/
def ofJson? (v : Json) : Option TypeKind := do
  let name ← v.bareVariant?
  (names.find? fun k => k.2 == name).map (·.1)

end TypeKind

/-- A type parameter of a class, with its bounds by name. -/
structure TypeParameter where
  name : String
  bounds : List String := []
  deriving DecidableEq, Inhabited, Repr

/-- A class. -/
structure TypeInfo where
  fqn : String
  kind : TypeKind := .classType
  modifiers : List String := []
  typeParameters : List TypeParameter := []
  outer : Option String := none
  deriving DecidableEq, Inhabited, Repr

namespace TypeInfo

/-- The class has the modifier. -/
def hasModifier (info : TypeInfo) (modifier : String) : Bool := info.modifiers.contains modifier

/-- Each instance belongs to an instance of the outer class. -/
def isInner (info : TypeInfo) : Bool :=
  info.outer.isSome && info.kind == .classType && !info.hasModifier "static"

/-- The outer class of an inner class. -/
def enclosing? (info : TypeInfo) : Option String := if info.isInner then info.outer else none

/-- The names of the type parameters. -/
def parameterNames (info : TypeInfo) : List String := info.typeParameters.map (·.name)

end TypeInfo

/-- A formal parameter.  The type of a variable-arity parameter `T... x` is the array `T[]`. -/
structure ParameterInfo where
  name : String
  type : TypeRef
  isVarargs : Bool := false
  deriving DecidableEq, Inhabited, Repr

namespace ParameterInfo

/-- The parameter `T... name`. -/
def varargs (name : String) (element : TypeRef) : ParameterInfo :=
  ⟨name, element.arrayOf.wrapped, true⟩

/-- The parameter with the bound names of its type replaced. -/
def subst (s : Bindings) (p : ParameterInfo) : ParameterInfo := { p with type := p.type.apply s }

/-- The text of the element type of a variable-arity parameter: an array with one pair of brackets
less. -/
def elementText (p : ParameterInfo) : String :=
  match p.type with
  | .array element dimensions =>
    element.toText ++ String.join (List.replicate (dimensions - 1) "[]")
  | t => t.toText

/-- `T name`, or `T... name` with the element type. -/
def toText (p : ParameterInfo) : String :=
  if p.isVarargs then p.elementText ++ "... " ++ p.name else p.type.toText ++ " " ++ p.name

/-- The parameter has a text: the array of a variable-arity parameter has a pair of brackets to be left
out. -/
def isWritable (p : ParameterInfo) : Bool :=
  match p.isVarargs, p.type with
  | true, .array _ dimensions => 1 ≤ dimensions
  | _, _ => true

end ParameterInfo

/-- The kinds of members. -/
inductive MemberKind where
  | field
  | method
  | constructor
  deriving DecidableEq, Inhabited, Repr

/-- A member of a class.  A field has no parameters (`none`). -/
structure MemberInfo where
  name : String
  fqn : String
  kind : MemberKind
  declaringType : String
  type : TypeRef
  parameters : Option (List ParameterInfo) := none
  modifiers : List String := []
  deriving DecidableEq, Inhabited, Repr

/-! ### JSON -/

namespace TypeParameter

/-- Writes a type parameter. -/
def toJson (p : TypeParameter) : Json :=
  .record [("name", .text p.name), ("bounds", .texts p.bounds)]

/-- Reads a type parameter. -/
def ofJson? (v : Json) : Option TypeParameter := do
  let ms ← Json.Record.members? 2 ["name", "bounds"] v
  return {
    name := ← Json.Record.required ms "name" Json.string?
    bounds := ← Json.Record.required ms "bounds" Json.strings? }

end TypeParameter

namespace TypeInfo

/-- The members of a class description. -/
def members (info : TypeInfo) : List (String × Json) :=
  [("fqn", .text info.fqn), ("kind", info.kind.toJson), ("modifiers", .texts info.modifiers),
    ("type_parameters", .arr (info.typeParameters.map TypeParameter.toJson)),
    ("outer", .optional .text info.outer)]

/-- Writes a class description. -/
def toJson (info : TypeInfo) : Json := .record info.members

/-- Reads a class description. -/
def ofJson? (v : Json) : Option TypeInfo := do
  let ms ← Json.Record.members? 4 ["fqn", "kind", "modifiers", "type_parameters", "outer"] v
  return {
    fqn := ← Json.Record.required ms "fqn" Json.string?
    kind := ← Json.Record.required ms "kind" TypeKind.ofJson?
    modifiers := ← Json.Record.required ms "modifiers" Json.strings?
    typeParameters := ← Json.Record.required ms "type_parameters" (Json.list? TypeParameter.ofJson?)
    outer := ← Json.Record.maybe ms "outer" Json.string? }

end TypeInfo

namespace ParameterInfo

/-- Writes a parameter. -/
def toJson (p : ParameterInfo) : Json :=
  .record [("name", .text p.name), ("type_ref", p.type.toJson), ("is_varargs", .bool p.isVarargs)]

/-- Reads a parameter. -/
def ofJson? (v : Json) : Option ParameterInfo := do
  let ms ← Json.Record.members? 3 ["name", "type_ref", "is_varargs"] v
  return {
    name := ← Json.Record.required ms "name" Json.string?
    type := ← Json.Record.required ms "type_ref" TypeRef.ofJson?
    isVarargs := ← Json.Record.required ms "is_varargs" Json.bool? }

end ParameterInfo

namespace MemberKind

/-- Writes a member kind as its name. -/
def toJson : MemberKind → Json
  | .field => .text "field"
  | .method => .text "method"
  | .constructor => .text "constructor"

/-- Reads a member kind from its name. -/
def ofJson? (v : Json) : Option MemberKind := do
  match ← v.bareVariant? with
  | "field" => some .field
  | "method" => some .method
  | "constructor" => some .constructor
  | _ => none

end MemberKind

namespace MemberInfo

/-- Writes a member. -/
def toJson (m : MemberInfo) : Json :=
  .record [("name", .text m.name), ("fqn", .text m.fqn), ("kind", m.kind.toJson),
    ("declaring_type", .text m.declaringType), ("type_ref", m.type.toJson),
    ("parameters", .optional (fun ps => .arr (ps.map ParameterInfo.toJson)) m.parameters),
    ("modifiers", .texts m.modifiers)]

/-- Reads a member. -/
def ofJson? (v : Json) : Option MemberInfo := do
  let ms ← Json.Record.members? 7
    ["name", "fqn", "kind", "declaring_type", "type_ref", "parameters", "modifiers"] v
  return {
    name := ← Json.Record.required ms "name" Json.string?
    fqn := ← Json.Record.required ms "fqn" Json.string?
    kind := ← Json.Record.required ms "kind" MemberKind.ofJson?
    declaringType := ← Json.Record.required ms "declaring_type" Json.string?
    type := ← Json.Record.required ms "type_ref" TypeRef.ofJson?
    parameters := ← Json.Record.maybe ms "parameters" (Json.list? ParameterInfo.ofJson?)
    modifiers := ← Json.Record.required ms "modifiers" Json.strings? }

end MemberInfo
end GroovyNew
