/-
# Picking one class

A reference may denote several classes.  A policy says which of them a call constructs: the first,
or the only one.  Packages never count.
-/

import GroovyNew.Resolve.Candidate

namespace GroovyNew

/-- How one class is picked from the results of a reference. -/
inductive ClassPick where
  /-- The first class. -/
  | first
  /-- The only class; none if there are several. -/
  | unique
  deriving DecidableEq, Inhabited, Repr

namespace ClassPick

/-- The class that a policy picks. -/
def pick? (policy : ClassPick) (results : List ReferenceResult) : Option ClassCandidate :=
  match policy, ReferenceResult.candidates results with
  | .first, classes => classes.head?
  | .unique, [c] => some c
  | .unique, _ => none

/-- The name of a policy. -/
def name : ClassPick → String
  | .first => "first"
  | .unique => "unique"

/-- Reads a policy from its name. -/
def ofJson? (v : Json) : Option ClassPick := do
  match ← v.bareVariant? with
  | "first" => some .first
  | "unique" => some .unique
  | _ => none

end ClassPick
end GroovyNew
