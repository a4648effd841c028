/-
# Source files and their call sites

A source file holds what decides the meaning of names in it, and its call sites in order.  Each edit
moves a modification stamp: the file's own, or the one that it shares with other files.
-/

import GroovyNew.Infer
import GroovyNew.Syntax.Edit
import GroovyNew.Syntax.Json

namespace GroovyNew

/-- A `new` expression and its surroundings. -/
structure CallSite where
  expr : NewExpr
  enclosingClass : Option String := none
  isStatic : Bool := false
  locals : Bindings := {}
  typeParameters : List String := []
  deriving Inhabited

/-- The id of the expression. -/
def CallSite.id (site : CallSite) : CallSiteId := site.expr.id

/-- The modification stamp of a file. -/
inductive Tracker where
  /-- The file counts its own edits. -/
  | own (stamp : Nat)
  /-- The edits are counted together with those of other files. -/
  | shared
  deriving DecidableEq, Inhabited, Repr

/-- A source file. -/
structure SourceFile where
  path : Option String := none
  package : Option String := none
  imports : List String := []
  declaredTypes : List String := []
  callSites : List CallSite := []
  tracker : Tracker := .own 0
  deriving Inhabited

namespace SourceFile

/-- The first call site with the id. -/
def callSite? (file : SourceFile) (id : CallSiteId) : Option CallSite :=
  file.callSites.find? fun site => site.id == id

/-- The file has a call site with the id. -/
def hasCallSite (file : SourceFile) (id : CallSiteId) : Bool := (file.callSite? id).isSome

/-- The surroundings of a call site of the file. -/
def context (file : SourceFile) (site : CallSite) : Context where
  package := file.package
  imports := file.imports
  enclosingClass := site.enclosingClass
  typeParameters := site.typeParameters
  declaredTypes := file.declaredTypes
  isStatic := site.isStatic
  locals := site.locals

/-- Changes the expression of the first call site with the id. -/
def editExpr (file : SourceFile) (id : CallSiteId) (f : NewExpr → NewExpr) : SourceFile :=
  { file with
    callSites := modifyFirst (·.id == id) (fun site => { site with expr := f site.expr })
      file.callSites }

end SourceFile

/-! ### JSON -/

namespace CallSite

/-- Writes a call site. -/
def toJson (site : CallSite) : Json :=
  .record [("expr", site.expr.toJson), ("enclosing_class", .optional .text site.enclosingClass),
    ("static_context", .bool site.isStatic), ("locals", site.locals.toJson),
    ("type_parameters", .texts site.typeParameters)]

/-- Reads a call site. -/
def read (v : Json) : Reading CallSite := do
  let ms ← Json.Record.members? 1
    ["expr", "enclosing_class", "static_context", "locals", "type_parameters"] v
  let expr ← NewExpr.read (← Json.Record.get? ms "expr")
  let enclosingClass ← Json.Record.maybe ms "enclosing_class" Json.string?
  let isStatic ← Json.Record.defaulted ms "static_context" false Json.bool?
  let locals ← Json.Record.defaulted ms "locals" {} Bindings.ofJson?
  let typeParameters ← Json.Record.defaulted ms "type_parameters" [] Json.strings?
  return { expr, enclosingClass, isStatic, locals, typeParameters }

end CallSite

namespace SourceFile

/-- Writes a source file; its stamp is not part of it. -/
def toJson (file : SourceFile) : Json :=
  .record [("path", .optional .text file.path), ("package", .optional .text file.package),
    ("imports", .texts file.imports), ("declared_types", .texts file.declaredTypes),
    ("call_sites", .arr (file.callSites.map CallSite.toJson))]

/-- Reads a source file. -/
def read (v : Json) : Reading SourceFile := do
  let ms ← Json.Record.members? 0
    ["path", "package", "imports", "declared_types", "call_sites"] v
  let path ← Json.Record.maybe ms "path" Json.string?
  let package ← Json.Record.maybe ms "package" Json.string?
  let imports ← Json.Record.defaulted ms "imports" [] Json.strings?
  let declaredTypes ← Json.Record.defaulted ms "declared_types" [] Json.strings?
  let sites ← Json.Record.defaulted ms "call_sites" [] Json.items?
  let callSites ← sites.mapM CallSite.read
  return { path, package, imports, declaredTypes, callSites }

end SourceFile
end GroovyNew
