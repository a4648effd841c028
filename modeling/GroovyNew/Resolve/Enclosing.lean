/-
# Enclosing instances

A new instance of an inner class belongs to an instance of the outer class.  It is given explicitly,
`outer.new Inner()`, or it is the innermost instance around the call that is an instance of the
outer class.  Only an inner class carries an instance of the class around it, so the search goes
outwards through inner classes and ends at the first class that is none.
-/

import GroovyNew.Infer
import GroovyNew.Resolve.Candidate
import GroovyNew.Subtyping

namespace GroovyNew
namespace TypeSystem

/-- The first class from `fqn` outwards that is `outer` or inherits from it, looking at no more than
`steps` classes. -/
def enclosingFrom? (ts : TypeSystem) (outer : String) : (steps : Nat) → String → Option String
  | 0, _ => none
  | steps + 1, fqn =>
    if ts.isInheritor fqn outer then some fqn
    else match (ts.typeInfo? fqn).bind TypeInfo.enclosing? with
      | some next => enclosingFrom? ts outer steps next
      | none => none

/-- The type of the instance around the call to which a new `inner` would belong. -/
def enclosingInstance? (ts : TypeSystem) (ctx : Context) (inner : TypeInfo) : Option TypeRef :=
  match inner.enclosing?, ctx.enclosingClass with
  | some outer, some c =>
    if ctx.isStatic then none else (ts.enclosingFrom? outer (ts.nesting + 1) c).map .id
  | _, _ => none

/-- The type of the enclosing instance that a call passes to a constructor of the class: the
qualifier, else the instance around the call. -/
def enclosingArgument? (ts : TypeSystem) (ctx : Context) (e : NewExpr) (c : ClassCandidate) :
    Option TypeRef :=
  if c.info.isInner then
    match e.qualifier with
    | some q => some (ts.inferOrUnknown ctx q)
    | none => ts.enclosingInstance? ctx c.info
  else none

/-- The argument types with the enclosing instance in front, where the class takes one and one is
available. -/
def withEnclosing (ts : TypeSystem) (ctx : Context) (e : NewExpr) (c : ClassCandidate)
    (args : List TypeRef) : List TypeRef :=
  match ts.enclosingArgument? ctx e c with
  | some t => t :: args
  | none => args

end TypeSystem
end GroovyNew
