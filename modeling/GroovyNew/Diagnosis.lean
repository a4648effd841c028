/-
# Diagnoses

What is said about one call site: the constructor it invokes, or why none can be told.
-/

import GroovyNew.Workspace

namespace GroovyNew

/-- What resolution says about a call site. -/
inductive Diagnosis where
  /-- Exactly one declared constructor, by its signature. -/
  | resolved (signature : String)
  /-- A class without declared constructors. -/
  | defaultConstructor (classFqn : String)
  /-- Several constructors come into question. -/
  | ambiguous (count : Nat)
  /-- The class is known, and none of its constructors applies. -/
  | noApplicableConstructor
  /-- No class is known by the name. -/
  | unresolvedReference
  /-- An array is created; no constructor is invoked. -/
  | arrayCreation
  deriving DecidableEq, Inhabited, Repr

namespace Diagnosis

/-- The diagnosis asks for attention. -/
def isProblem : Diagnosis → Bool
  | .ambiguous _ | .noApplicableConstructor | .unresolvedReference => true
  | _ => false

/-- The diagnosis for the complete results of a call whose class is known. -/
def ofResults : List ResolveResult → Diagnosis
  | [] => .noApplicableConstructor
  | [r] => match r.constructor with
    | some k => .resolved k.signature
    | none => .defaultConstructor r.classFqn
  | rs => .ambiguous rs.length

/-- Writes a diagnosis. -/
def toJson : Diagnosis → Json
  | .resolved signature =>
    .record [("status", .text "resolved"), ("detail", .text signature)]
  | .defaultConstructor fqn =>
    .record [("status", .text "default_constructor"), ("detail", .text fqn)]
  | .ambiguous count => .record [("status", .text "ambiguous"), ("detail", .nat count)]
  | .noApplicableConstructor => .record [("status", .text "no_applicable_constructor")]
  | .unresolvedReference => .record [("status", .text "unresolved_reference")]
  | .arrayCreation => .record [("status", .text "array_creation")]

end Diagnosis

namespace Session

/-- The diagnosis of a call. -/
def diagnose (s : Session) (c : Call) : Diagnosis × Session :=
  if c.expr.arrayCount > 0 then (.arrayCreation, s)
  else if (ReferenceResult.candidates (s.classes c)).isEmpty then (.unresolvedReference, s)
  else
    let (results, s) := s.multiResolve c false
    (.ofResults results, s)

/-- The diagnoses of call sites, one after the other. -/
def diagnoseEach (s : Session) : List (SourceFile × CallSite) →
    List (SourceFile × CallSite × Diagnosis) × Session
  | [] => ([], s)
  | (file, site) :: rest =>
    let (d, s) := s.diagnose (callAt file site)
    let (ds, s) := diagnoseEach s rest
    ((file, site, d) :: ds, s)

/-- The diagnoses of all call sites. -/
def diagnoseAll (s : Session) : List (SourceFile × CallSite × Diagnosis) × Session :=
  s.diagnoseEach s.callSites

end Session
end GroovyNew
