/-
# Workspaces

A workspace is class declarations and source files.  Loading it indexes the classes, lets all files
share one modification stamp, and checks that no two call sites have the same id, so that an id
finds its call in the whole workspace.
-/

import GroovyNew.ClassIndex.Build
import GroovyNew.Config
import GroovyNew.Resolve.Session

namespace GroovyNew

/-- Class declarations and source files. -/
structure Workspace where
  classes : List ClassDecl := []
  files : List SourceFile := []
  deriving Inhabited

namespace Workspace

/-- Writes a workspace. -/
def toJson (w : Workspace) : Json :=
  .record [("classes", .arr (w.classes.map ClassDecl.toJson)),
    ("files", .arr (w.files.map SourceFile.toJson))]

/-- Reads a workspace. -/
def read (v : Json) : Reading Workspace := do
  let ms ← Json.Record.members? 0 ["classes", "files"] v
  let classes ← Json.Record.defaulted ms "classes" [] (Json.list? ClassDecl.ofJson?)
  let files ← Json.Record.defaulted ms "files" [] Json.items?
  let files ← files.mapM SourceFile.read
  return { classes, files }

/-- Reads a workspace, giving fresh ids to expressions without id. -/
def ofJson? (v : Json) : Option Workspace := (read v).start

/-- The workspace that a text writes. -/
def ofText (text : String) : Except Failure Workspace :=
  match (Json.parse? text).bind ofJson? with
  | some w => .ok w
  | none => .error .malformed

/-- The path of a file, for messages. -/
def pathText (file : SourceFile) : String := file.path.getD "<unnamed>"

/-- The call-site ids of a workspace with the paths of their files, in order. -/
def siteIds (w : Workspace) : List (CallSiteId × String) :=
  w.files.flatMap fun file => file.callSites.map fun site => (site.id, pathText file)

/-- The first id that has occurred before, with its path; ids in `seen` have occurred. -/
def firstRepeat? (seen : List CallSiteId) : List (CallSiteId × String) → Option (CallSiteId × String)
  | [] => none
  | (id, path) :: rest =>
    if seen.contains id then some (id, path) else firstRepeat? (id :: seen) rest

theorem firstRepeat?_eq_none_iff {seen : List CallSiteId} {sites : List (CallSiteId × String)} :
    firstRepeat? seen sites = none ↔
      (sites.map (·.1)).Nodup ∧ ∀ site ∈ sites, site.1 ∉ seen := by
  induction sites generalizing seen with
  | nil => simp [firstRepeat?]
  | cons site sites ih =>
    obtain ⟨id, path⟩ := site
    unfold firstRepeat?
    by_cases hid : id ∈ seen
    · simp [hid]
    · have hall : (∀ site ∈ (id, path) :: sites, site.1 ∉ seen) ↔ ∀ site ∈ sites, site.1 ∉ seen := by
        simp [hid]
      rw [hall, if_neg (by simpa using hid), ih, List.map_cons, List.nodup_cons]
      simp only [List.mem_cons, not_or, List.mem_map, not_exists, not_and]
      constructor
      · rintro ⟨hn, hs⟩
        exact ⟨⟨fun x hx => (hs x hx).1, hn⟩, fun x hx => (hs x hx).2⟩
      · rintro ⟨⟨hd, hn⟩, hs⟩
        exact ⟨hn, fun x hx => ⟨hd x hx, hs x hx⟩⟩

/-- The session for a workspace whose classes are indexed. -/
def session (w : Workspace) (index : ClassIndex) (config : ResolveConfig) : Session where
  types := index.typeSystem
  resolver := { policy := config.classPick }
  cache := if config.cache then some { stamp := 0 } else none
  files := w.files.map fun file => { file with tracker := .shared }

/-- The session for a workspace, if its classes are well formed and its call sites have distinct ids. -/
def load (w : Workspace) (config : ResolveConfig) : Except Failure Session :=
  match ClassIndex.ofDecls w.classes with
  | .error e => .error (.argument e)
  | .ok index =>
    match firstRepeat? [] w.siteIds with
    | some (id, path) => .error (.duplicateCallSite id path)
    | none => .ok (w.session index config)

/-- A loaded workspace has call sites with distinct ids. -/
theorem load_eq_ok {w : Workspace} {config : ResolveConfig} {s : Session} :
    w.load config = .ok s ↔ ∃ index, ClassIndex.ofDecls w.classes = .ok index ∧
      (w.siteIds.map (·.1)).Nodup ∧ s = w.session index config := by
  unfold load
  cases hi : ClassIndex.ofDecls w.classes with
  | error e => simp
  | ok index =>
    cases hr : firstRepeat? [] w.siteIds with
    | some p =>
      obtain ⟨id, path⟩ := p
      have hn : ¬(w.siteIds.map (·.1)).Nodup := fun hn => by
        have hnone : firstRepeat? [] w.siteIds = none :=
          firstRepeat?_eq_none_iff.2 ⟨hn, fun _ _ => List.not_mem_nil⟩
        rw [hr] at hnone
        cases hnone
      simp [hn]
    | none =>
      have hn : (w.siteIds.map (·.1)).Nodup := (firstRepeat?_eq_none_iff.1 hr).1
      simp [hn, eq_comm]

end Workspace
end GroovyNew
