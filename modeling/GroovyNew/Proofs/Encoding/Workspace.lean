/-
# Workspaces are read back from JSON

A workspace that has been read from a JSON value, in whatever of the forms that readers accept, is read
again from the value that it is written as, and no id has to be drawn then
(`Workspace.ofJson?_toJson_of_read`).

Class declarations are read back without further ado.  A call site is, if its expression and its locals
are, and a source file, if its call sites are; that they are has to come from their having been read,
because not every expression and not every table of locals can be written (`NewExpr.ensures_read`,
`Bindings.restores_of_ofJson?`).  The stamp of a file is not written, and a file that has been read has
its first one.
-/

import GroovyNew.Proofs.Encoding.Expressions
import GroovyNew.Proofs.Encoding.Types
import GroovyNew.Workspace

namespace GroovyNew

/-! ### Class declarations -/

@[simp] theorem TypeKind.ofJson?_toJson (kind : TypeKind) : ofJson? kind.toJson = some kind := by
  cases kind <;> rfl

@[simp] theorem ParameterDecl.ofJson?_toJson (p : ParameterDecl) : ofJson? p.toJson = some p := by
  rw [ofJson?, toJson, Json.Record.members?_record (by simp)]
  simp [List.lookup_cons, Json.string?, Json.bool?]

@[simp] theorem ConstructorDecl.ofJson?_toJson (c : ConstructorDecl) : ofJson? c.toJson = some c := by
  have hparameters : Json.list? ParameterDecl.ofJson? (.arr (c.parameters.map ParameterDecl.toJson)) =
      some c.parameters := Json.list?_arr_map fun p _ => p.ofJson?_toJson
  rw [ofJson?, toJson, Json.Record.members?_record (by simp)]
  simp [List.lookup_cons, hparameters]

/-- Every class declaration is read back. -/
@[simp] theorem ClassDecl.ofJson?_toJson (d : ClassDecl) : ofJson? d.toJson = some d := by
  have hconstructors :
      Json.list? ConstructorDecl.ofJson? (.arr (d.constructors.map ConstructorDecl.toJson)) =
        some d.constructors := Json.list?_arr_map fun c _ => c.ofJson?_toJson
  rw [ofJson?, toJson, Json.Record.members?_record (by simp)]
  simp [List.lookup_cons, hconstructors, Json.string?]

/-! ### Call sites -/

namespace CallSite

/-- Reading what the call site is written as gives back the call site, and draws no id. -/
def Restores (site : CallSite) : Prop := read site.toJson = pure site

theorem restores {site : CallSite} (hexpr : site.expr.Restores) (hlocals : site.locals.Restores) :
    site.Restores := by
  have hexpr' : NewExpr.read site.expr.toJson = pure site.expr := hexpr
  have hlocals' : Bindings.ofJson? site.locals.toJson = some site.locals := hlocals
  rw [Restores, read, toJson, Json.Record.members?_record (by simp)]
  simp [List.lookup_cons, hexpr', hlocals', Json.bool?]

theorem ensures_read (v : Json) : (read v).Ensures Restores := by
  unfold read
  refine .lift_bind fun ms _ => .lift_bind fun e _ => (NewExpr.ensures_read e).bind fun expr => ?_
  refine .lift_bind fun enclosingClass _ => .lift_bind fun isStatic _ => .lift_bind fun locals hl => ?_
  refine .lift_bind fun typeParameters _ => Reading.ensures_pure fun hexpr => restores hexpr ?_
  rcases Json.Record.eq_or_exists_of_defaulted hl with rfl | ⟨v, hv⟩
  · rfl
  · exact Bindings.restores_of_ofJson? hv

end CallSite

/-! ### Source files -/

namespace SourceFile

/-- Reading what the source file is written as gives back the source file, and draws no id. -/
def Restores (file : SourceFile) : Prop := read file.toJson = pure file

/-- The stamp is not written; a file is read with a stamp of its own. -/
theorem restores {file : SourceFile} (hsites : ∀ site ∈ file.callSites, site.Restores)
    (htracker : file.tracker = .own 0) : file.Restores := by
  obtain ⟨path, package, imports, declaredTypes, callSites, tracker⟩ := file
  obtain rfl : tracker = .own 0 := htracker
  have hsites' : (callSites.map CallSite.toJson).mapM CallSite.read = pure callSites :=
    Reading.mapM_map_eq_pure hsites
  rw [Restores, read, toJson, Json.Record.members?_record (by simp)]
  simp [List.lookup_cons, hsites', Json.items?]

theorem ensures_read (v : Json) : (read v).Ensures Restores := by
  unfold read
  refine .lift_bind fun ms _ => .lift_bind fun path _ => .lift_bind fun package _ => ?_
  refine .lift_bind fun imports _ => .lift_bind fun declaredTypes _ => .lift_bind fun sites _ => ?_
  refine (Reading.Ensures.mapM fun v _ => CallSite.ensures_read v).bind fun callSites => ?_
  exact Reading.ensures_pure fun hsites => restores hsites rfl

end SourceFile

/-! ### Workspaces -/

namespace Workspace

/-- Reading what the workspace is written as gives back the workspace, and draws no id. -/
def Restores (w : Workspace) : Prop := read w.toJson = pure w

theorem restores {w : Workspace} (hfiles : ∀ file ∈ w.files, file.Restores) : w.Restores := by
  have hclasses : Json.list? ClassDecl.ofJson? (.arr (w.classes.map ClassDecl.toJson)) =
      some w.classes := Json.list?_arr_map fun d _ => d.ofJson?_toJson
  have hfiles' : (w.files.map SourceFile.toJson).mapM SourceFile.read = pure w.files :=
    Reading.mapM_map_eq_pure hfiles
  rw [Restores, read, toJson, Json.Record.members?_record (by simp)]
  simp [List.lookup_cons, hclasses, hfiles', Json.items?]

theorem ensures_read (v : Json) : (read v).Ensures Restores := by
  unfold read
  refine .lift_bind fun ms _ => .lift_bind fun classes _ => .lift_bind fun files _ => ?_
  refine (Reading.Ensures.mapM fun v _ => SourceFile.ensures_read v).bind fun files => ?_
  exact Reading.ensures_pure fun hfiles => restores hfiles

/-- **A workspace that has been read is read back from what it is written as**, and then no id is drawn.
The ids that have been drawn for it must be ones that can be written; if all its expressions were written
with ids, none has been drawn and `next` is `firstFreshId`. -/
theorem ofJson?_toJson_of_read {v : Json} {w : Workspace} {next : CallSiteId}
    (h : (read v).run firstFreshId = some (w, next)) (hnext : next ≤ Reading.idBound) :
    ofJson? w.toJson = some w ∧ ∀ start, (read w.toJson).run start = some (w, start) := by
  have hrestores : read w.toJson = pure w := (ensures_read v _ _ _ h).2 hnext
  rw [ofJson?, Reading.start, hrestores]
  exact ⟨rfl, fun start => rfl⟩

/-- A class and a call site, with the liberties that readers grant: an array for a record, an object for
a bare name, data before the kind, blanks in a reference. -/
def loosely : Json :=
  let nested : Json := .variant "new" (.arr [.nat 8, .null, .arr [.variant "keyword" .null]])
  let expr : Json := .record [("id", .nat 7), ("children", .arr [.text "keyword",
    .variant "reference" (.text " Map < Foo > "),
    .variant "arguments" (.record [("positional", .arr [nested])])])]
  let local₁ : Json := .record [("data", .text "Foo"), ("kind", .text "Id")]
  let site : Json := .record [("locals", .record [("x", local₁)]), ("expr", expr)]
  .record [
    ("classes", .arr [.record [("fqn", .text "a.Foo")]]),
    ("files", .arr [.record [("call_sites", .arr [site])]])]

/-- The workspace in `loosely` is read, without drawing an id, and is read back. -/
theorem ofJson?_toJson_of_read_loosely : ∃ w, (read loosely).run firstFreshId = some (w, firstFreshId) ∧
    firstFreshId ≤ Reading.idBound ∧ ofJson? w.toJson = some w ∧
      ∀ start, (read w.toJson).run start = some (w, start) := by
  have hread : (((read loosely).run firstFreshId).any fun p => p.2 == firstFreshId) = true := by
    decide +kernel
  obtain ⟨⟨w, next⟩, hw, hnext⟩ := Option.any_eq_true _ _ |>.1 hread
  obtain rfl : next = firstFreshId := by simpa using hnext
  have hbound : firstFreshId ≤ Reading.idBound := by decide
  exact ⟨w, hw, hbound, ofJson?_toJson_of_read hw hbound⟩

end Workspace
end GroovyNew
