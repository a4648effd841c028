/-
# The JSON form of expressions

A variant is written as its name, or as an object with its name as the only member.  References are
written as text.  Members that hold nothing (a missing qualifier, an empty group of arguments) are
not written.

A `new` expression read without an id gets one that no hand-written id is expected to have.  Reading
therefore threads the next free id, starting at `firstFreshId` (`Reading`).
-/

import GroovyNew.Json.Record
import GroovyNew.Syntax.Basic

namespace GroovyNew

/-- Where the ids given to expressions without one start. -/
def firstFreshId : CallSiteId := Nat.pow 2 20

/-- A reader that may fail and may draw fresh ids; the state is the next free one. -/
abbrev Reading := StateT CallSiteId Option

/-- Draws a fresh id. -/
def Reading.fresh : Reading CallSiteId := fun next => some (next, next + 1)

/-- The value read when every fresh id is still free. -/
def Reading.start {α : Type} (r : Reading α) : Option α := (r.run firstFreshId).map (·.1)

namespace CodeReference

/-- Writes a reference as its text. -/
def toJson (r : CodeReference) : Json := .text r.toText

/-- Reads a reference from its text. -/
def ofJson? (v : Json) : Option CodeReference := do
  match ofText (← v.string?) with
  | .ok r => some r
  | .error _ => none

end CodeReference

namespace Literal

/-- Writes a literal. -/
def toJson : Literal → Json
  | .integer text => .variant "integer" (.text text)
  | .decimal text => .variant "decimal" (.text text)
  | .bool b => .variant "bool" (.bool b)
  | .char c => .variant "char" (.text (String.ofList [c]))
  | .str s => .variant "str" (.text s)
  | .null => .text "null"

/-- Reads a text of exactly one character. -/
def char? (v : Json) : Option Char := do
  match (← v.string?).toList with
  | [c] => some c
  | _ => none

/-- Reads a literal. -/
def ofJson? (v : Json) : Option Literal := do
  match ← v.variant? with
  | ("integer", some v) => v.string?.map .integer
  | ("decimal", some v) => v.string?.map .decimal
  | ("bool", some v) => v.bool?.map .bool
  | ("char", some v) => (char? v).map .char
  | ("str", some v) => v.string?.map .str
  | ("null", payload) => if Json.isUnit payload then some .null else none
  | _ => none

end Literal

/-! ### Writing -/

mutual

/-- Writes an expression. -/
def Expr.toJson : Expr → Json
  | .literal l => .variant "literal" l.toJson
  | .ident name => .variant "ident" (.text name)
  | .this => .text "this"
  | .new e => .variant "new" e.toJson
  | .map entries => .variant "map" (.arr (namedToJson entries))
  | .list items => .variant "list" (.arr (exprsToJson items))
  | .cast target e => .variant "cast" (.record [("target", target.toJson), ("expr", e.toJson)])
  | .verbatim text => .variant "opaque" (.text text)

/-- Writes a labelled value. -/
def NamedArgument.toJson : NamedArgument → Json
  | ⟨label, value⟩ => .record [("label", .text label), ("value", value.toJson)]

/-- Writes each of some labelled values. -/
def namedToJson : List NamedArgument → List Json
  | [] => []
  | a :: as => a.toJson :: namedToJson as

/-- Writes each of some expressions. -/
def exprsToJson : List Expr → List Json
  | [] => []
  | e :: es => e.toJson :: exprsToJson es

/-- Writes an argument list. -/
def ArgumentList.toJson : ArgumentList → Json
  | ⟨[], []⟩ => .record []
  | ⟨[], positional⟩ => .record [("positional", .arr (exprsToJson positional))]
  | ⟨named, []⟩ => .record [("named", .arr (namedToJson named))]
  | ⟨named, positional⟩ =>
    .record [("named", .arr (namedToJson named)), ("positional", .arr (exprsToJson positional))]

/-- Writes an anonymous class. -/
def AnonymousClass.toJson : AnonymousClass → Json
  | ⟨base, none⟩ => .record [("base", base.toJson), ("arguments", .null)]
  | ⟨base, some a⟩ => .record [("base", base.toJson), ("arguments", a.toJson)]

/-- Writes a child of a `new` expression. -/
def NewChild.toJson : NewChild → Json
  | .keyword => .text "keyword"
  | .whitespace text => .variant "whitespace" (.text text)
  | .error text => .variant "error" (.text text)
  | .typeArguments args => .variant "type_arguments" (.arr (args.map CodeReference.toJson))
  | .reference r => .variant "reference" r.toJson
  | .builtinType name => .variant "builtin_type" (.text name)
  | .arguments a => .variant "arguments" a.toJson
  | .anonymous c => .variant "anonymous" c.toJson
  | .arrayDeclaration n => .variant "array_declaration" (.record [("dimensions", .nat n)])
  | .arrayInitializer items => .variant "array_initializer" (.arr (exprsToJson items))

/-- Writes each of some children. -/
def childrenToJson : List NewChild → List Json
  | [] => []
  | c :: cs => c.toJson :: childrenToJson cs

/-- Writes a `new` expression. -/
def NewExpr.toJson : NewExpr → Json
  | ⟨id, none, children⟩ =>
    .record [("id", .nat id), ("children", .arr (childrenToJson children))]
  | ⟨id, some q, children⟩ =>
    .record [("id", .nat id), ("qualifier", q.toJson),
      ("children", .arr (childrenToJson children))]

end

/-! ### Reading

Records that contain expressions are read member by member.  What has been read so far is a record
of options, so that a member written twice shows. -/

/-- The members of a cast as far as they have been read. -/
structure CastParts where
  target : Option CodeReference := none
  expr : Option Expr := none

/-- The members of a labelled value as far as they have been read. -/
structure NamedParts where
  label : Option String := none
  value : Option Expr := none

/-- The members of an argument list as far as they have been read. -/
structure ArgumentParts where
  named : Option (List NamedArgument) := none
  positional : Option (List Expr) := none

/-- The members of an anonymous class as far as they have been read. -/
structure AnonymousParts where
  base : Option CodeReference := none
  arguments : Option (Option ArgumentList) := none

/-- The members of a `new` expression as far as they have been read. -/
structure NewParts where
  id : Option CallSiteId := none
  qualifier : Option (Option Expr) := none
  children : Option (List NewChild) := none

mutual

/-- Reads an expression. -/
def Expr.read : Json → Reading Expr
  | .text "this" => pure .this
  | .obj [(some "this", .null)] => pure .this
  | .obj [(some "literal", v)] => Expr.literal <$> (Literal.ofJson? v : Option Literal)
  | .obj [(some "ident", v)] => Expr.ident <$> (v.string? : Option String)
  | .obj [(some "new", v)] => Expr.new <$> NewExpr.read v
  | .obj [(some "map", .arr items)] => Expr.map <$> readNamed items
  | .obj [(some "list", .arr items)] => Expr.list <$> readExprs items
  | .obj [(some "cast", .obj ms)] => readCast {} ms
  | .obj [(some "cast", .arr [target, e])] => do
    let target ← CodeReference.ofJson? target
    let e ← Expr.read e
    return .cast target e
  | .obj [(some "opaque", v)] => Expr.verbatim <$> (v.string? : Option String)
  | _ => failure

/-- Reads a cast, member by member. -/
def readCast (parts : CastParts) : Json.Members → Reading Expr
  | [] => match parts with
    | ⟨some target, some e⟩ => pure (.cast target e)
    | _ => failure
  | (none, _) :: _ => failure
  | (some "target", v) :: ms => do
    guard parts.target.isNone
    let target ← CodeReference.ofJson? v
    readCast { parts with target := some target } ms
  | (some "expr", v) :: ms => do
    guard parts.expr.isNone
    let e ← Expr.read v
    readCast { parts with expr := some e } ms
  | (some _, _) :: ms => readCast parts ms

/-- Reads each of some expressions. -/
def readExprs : List Json → Reading (List Expr)
  | [] => pure []
  | v :: vs => do
    let e ← Expr.read v
    let es ← readExprs vs
    return e :: es

/-- Reads each of some labelled values. -/
def readNamed : List Json → Reading (List NamedArgument)
  | [] => pure []
  | v :: vs => do
    let a ← NamedArgument.read v
    let as ← readNamed vs
    return a :: as

/-- Reads a labelled value. -/
def NamedArgument.read : Json → Reading NamedArgument
  | .obj ms => NamedArgument.readMembers {} ms
  | .arr [label, value] => do
    let label ← label.string?
    let e ← Expr.read value
    return ⟨label, e⟩
  | _ => failure

/-- Reads a labelled value, member by member. -/
def NamedArgument.readMembers (parts : NamedParts) : Json.Members → Reading NamedArgument
  | [] => match parts with
    | ⟨some label, some value⟩ => pure ⟨label, value⟩
    | _ => failure
  | (none, _) :: _ => failure
  | (some "label", v) :: ms => do
    guard parts.label.isNone
    let label ← v.string?
    NamedArgument.readMembers { parts with label := some label } ms
  | (some "value", v) :: ms => do
    guard parts.value.isNone
    let e ← Expr.read v
    NamedArgument.readMembers { parts with value := some e } ms
  | (some _, _) :: ms => NamedArgument.readMembers parts ms

/-- Reads an argument list. -/
def ArgumentList.read : Json → Reading ArgumentList
  | .obj ms => ArgumentList.readMembers {} ms
  | .arr [] => pure ⟨[], []⟩
  | .arr [.arr named] => do
    let as ← readNamed named
    return ⟨as, []⟩
  | .arr [.arr named, .arr positional] => do
    let as ← readNamed named
    let es ← readExprs positional
    return ⟨as, es⟩
  | _ => failure

/-- Reads an argument list, member by member; either group may be absent. -/
def ArgumentList.readMembers (parts : ArgumentParts) : Json.Members → Reading ArgumentList
  | [] => pure ⟨parts.named.getD [], parts.positional.getD []⟩
  | (none, _) :: _ => failure
  | (some "named", .arr items) :: ms => do
    guard parts.named.isNone
    let as ← readNamed items
    ArgumentList.readMembers { parts with named := some as } ms
  | (some "positional", .arr items) :: ms => do
    guard parts.positional.isNone
    let es ← readExprs items
    ArgumentList.readMembers { parts with positional := some es } ms
  | (some key, _) :: ms => do
    guard (key != "named" && key != "positional")
    ArgumentList.readMembers parts ms

/-- Reads an anonymous class. -/
def AnonymousClass.read : Json → Reading AnonymousClass
  | .obj ms => AnonymousClass.readMembers {} ms
  | .arr [base] | .arr [base, .null] => do
    let base ← CodeReference.ofJson? base
    return ⟨base, none⟩
  | .arr [base, arguments] => do
    let base ← CodeReference.ofJson? base
    let a ← ArgumentList.read arguments
    return ⟨base, some a⟩
  | _ => failure

/-- Reads an anonymous class, member by member; its arguments may be absent. -/
def AnonymousClass.readMembers (parts : AnonymousParts) : Json.Members → Reading AnonymousClass
  | [] => match parts.base with
    | some base => pure ⟨base, parts.arguments.getD none⟩
    | none => failure
  | (none, _) :: _ => failure
  | (some "base", v) :: ms => do
    guard parts.base.isNone
    let base ← CodeReference.ofJson? v
    AnonymousClass.readMembers { parts with base := some base } ms
  | (some "arguments", .null) :: ms => do
    guard parts.arguments.isNone
    AnonymousClass.readMembers { parts with arguments := some none } ms
  | (some "arguments", v) :: ms => do
    guard parts.arguments.isNone
    let a ← ArgumentList.read v
    AnonymousClass.readMembers { parts with arguments := some (some a) } ms
  | (some _, _) :: ms => AnonymousClass.readMembers parts ms

/-- Reads a child of a `new` expression. -/
def NewChild.read : Json → Reading NewChild
  | .text "keyword" => pure .keyword
  | .obj [(some "keyword", .null)] => pure .keyword
  | .obj [(some "whitespace", v)] => NewChild.whitespace <$> (v.string? : Option String)
  | .obj [(some "error", v)] => NewChild.error <$> (v.string? : Option String)
  | .obj [(some "type_arguments", v)] =>
    NewChild.typeArguments <$> (v.list? CodeReference.ofJson? : Option (List CodeReference))
  | .obj [(some "reference", v)] =>
    NewChild.reference <$> (CodeReference.ofJson? v : Option CodeReference)
  | .obj [(some "builtin_type", v)] => NewChild.builtinType <$> (v.string? : Option String)
  | .obj [(some "arguments", v)] => NewChild.arguments <$> ArgumentList.read v
  | .obj [(some "anonymous", v)] => NewChild.anonymous <$> AnonymousClass.read v
  | .obj [(some "array_declaration", v)] =>
    NewChild.arrayDeclaration <$> (do
      let ms ← Json.Record.members? 1 ["dimensions"] v
      Json.Record.required ms "dimensions" (·.natBelow? 64) : Option Nat)
  | .obj [(some "array_initializer", .arr items)] =>
    NewChild.arrayInitializer <$> readExprs items
  | _ => failure

/-- Reads each of some children. -/
def readChildren : List Json → Reading (List NewChild)
  | [] => pure []
  | v :: vs => do
    let c ← NewChild.read v
    let cs ← readChildren vs
    return c :: cs

/-- Reads a `new` expression. -/
def NewExpr.read : Json → Reading NewExpr
  | .obj ms => NewExpr.readMembers {} ms
  | .arr [id, .null, .arr children] => do
    let id ← id.natBelow? 32
    let cs ← readChildren children
    return ⟨id, none, cs⟩
  | .arr [id, qualifier, .arr children] => do
    let id ← id.natBelow? 32
    let q ← Expr.read qualifier
    let cs ← readChildren children
    return ⟨id, some q, cs⟩
  | _ => failure

/-- Reads a `new` expression, member by member. -/
def NewExpr.readMembers (parts : NewParts) : Json.Members → Reading NewExpr
  | [] => match parts.children with
    | none => failure
    | some children => do
      let id ← match parts.id with
        | some id => pure id
        | none => Reading.fresh
      return ⟨id, parts.qualifier.getD none, children⟩
  | (none, _) :: _ => failure
  | (some "id", v) :: ms => do
    guard parts.id.isNone
    let id ← v.natBelow? 32
    NewExpr.readMembers { parts with id := some id } ms
  | (some "qualifier", .null) :: ms => do
    guard parts.qualifier.isNone
    NewExpr.readMembers { parts with qualifier := some none } ms
  | (some "qualifier", v) :: ms => do
    guard parts.qualifier.isNone
    let q ← Expr.read v
    NewExpr.readMembers { parts with qualifier := some (some q) } ms
  | (some "children", .arr items) :: ms => do
    guard parts.children.isNone
    let cs ← readChildren items
    NewExpr.readMembers { parts with children := some cs } ms
  | (some key, _) :: ms => do
    guard (key != "children")
    NewExpr.readMembers parts ms

end

end GroovyNew
