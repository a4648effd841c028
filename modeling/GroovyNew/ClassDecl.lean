/-
# Class declarations

A class as a workspace declares it.  Types of parameters are kept as source text; they get their
meaning when the declarations are indexed.
-/

import GroovyNew.TypeInfo

namespace GroovyNew

/-- A declared parameter; of a variable-arity parameter, `type` is the element type. -/
structure ParameterDecl where
  name : String
  type : String
  varargs : Bool := false
  deriving DecidableEq, Inhabited, Repr

/-- A declared constructor. -/
structure ConstructorDecl where
  parameters : List ParameterDecl := []
  modifiers : List String := []
  deriving DecidableEq, Inhabited, Repr

/-- A declared class.  Without constructors it has the implicit default constructor. -/
structure ClassDecl where
  fqn : String
  kind : TypeKind := .classType
  modifiers : List String := []
  typeParameters : List String := []
  superclass : Option String := none
  interfaces : List String := []
  /-- The class around a nested class. -/
  outer : Option String := none
  constructors : List ConstructorDecl := []
  deriving DecidableEq, Inhabited, Repr

namespace ParameterDecl

/-- Writes a parameter declaration. -/
def toJson (p : ParameterDecl) : Json :=
  .record [("name", .text p.name), ("type", .text p.type), ("varargs", .bool p.varargs)]

/-- Reads a parameter declaration. -/
def ofJson? (v : Json) : Option ParameterDecl := do
  let ms ← Json.Record.members? 2 ["name", "type", "varargs"] v
  return {
    name := ← Json.Record.required ms "name" Json.string?
    type := ← Json.Record.required ms "type" Json.string?
    varargs := ← Json.Record.defaulted ms "varargs" false Json.bool? }

end ParameterDecl

namespace ConstructorDecl

/-- Writes a constructor declaration. -/
def toJson (c : ConstructorDecl) : Json :=
  .record [("parameters", .arr (c.parameters.map ParameterDecl.toJson)),
    ("modifiers", .texts c.modifiers)]

/-- Reads a constructor declaration. -/
def ofJson? (v : Json) : Option ConstructorDecl := do
  let ms ← Json.Record.members? 0 ["parameters", "modifiers"] v
  return {
    parameters := ← Json.Record.defaulted ms "parameters" [] (Json.list? ParameterDecl.ofJson?)
    modifiers := ← Json.Record.defaulted ms "modifiers" [] Json.strings? }

end ConstructorDecl

namespace ClassDecl

/-- The description of the declared class. -/
def info (d : ClassDecl) : TypeInfo where
  fqn := d.fqn
  kind := d.kind
  modifiers := d.modifiers
  typeParameters := d.typeParameters.map fun name => { name }
  outer := d.outer

/-- Writes a class declaration. -/
def toJson (d : ClassDecl) : Json :=
  .record [("fqn", .text d.fqn), ("kind", d.kind.toJson), ("modifiers", .texts d.modifiers),
    ("type_parameters", .texts d.typeParameters), ("superclass", .optional .text d.superclass),
    ("interfaces", .texts d.interfaces), ("outer", .optional .text d.outer),
    ("constructors", .arr (d.constructors.map ConstructorDecl.toJson))]

/-- Reads a class declaration. -/
def ofJson? (v : Json) : Option ClassDecl := do
  let ms ← Json.Record.members? 1 ["fqn", "kind", "modifiers", "type_parameters", "superclass",
    "interfaces", "outer", "constructors"] v
  return {
    fqn := ← Json.Record.required ms "fqn" Json.string?
    kind := ← Json.Record.defaulted ms "kind" .classType TypeKind.ofJson?
    modifiers := ← Json.Record.defaulted ms "modifiers" [] Json.strings?
    typeParameters := ← Json.Record.defaulted ms "type_parameters" [] Json.strings?
    superclass := ← Json.Record.maybe ms "superclass" Json.string?
    interfaces := ← Json.Record.defaulted ms "interfaces" [] Json.strings?
    outer := ← Json.Record.maybe ms "outer" Json.string?
    constructors := ← Json.Record.defaulted ms "constructors" []
      (Json.list? ConstructorDecl.ofJson?) }

end ClassDecl
end GroovyNew
