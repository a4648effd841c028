/-
# The constructors of a class

With argument types, the constructors to which they apply; without, all of them, unchecked.  The
argument types for an inner class start with the enclosing instance.

Type parameters that no type argument binds are erased to their first bound before the arguments are
matched; the result tells the explicit bindings only.  A class that declares no constructor has the
implicit default constructor, which takes nothing but the enclosing instance and is reported by its
class alone.
-/

import GroovyNew.Applicability
import GroovyNew.Resolve.Candidate

namespace GroovyNew

namespace ClassCandidate

/-- The type of the enclosing instance that constructors of the class take. -/
def enclosingType? (c : ClassCandidate) : Option TypeRef := c.info.enclosing?.map .id

/-- Binds the parameters that are not bound to their first bound, or to `java.lang.Object`. -/
def eraseUnbound : (parameters : List TypeParameter) → Bindings → Bindings
  | [], s => s
  | p :: ps, s =>
    eraseUnbound ps
      (if (s.get? p.name).isSome then s
        else s.insert p.name (.id (p.bounds.head?.getD TypeRef.objectName)))

/-- The bindings of all type parameters, the unbound ones erased. -/
def erasure (c : ClassCandidate) : Bindings := eraseUnbound c.info.typeParameters c.substitution

/-- The result for one constructor of the class. -/
def result (c : ClassCandidate) (applicability : Applicability)
    (constructor : Option ConstructorCandidate) : ResolveResult where
  classFqn := c.fqn
  constructor
  applicability
  substitution := c.substitution

end ClassCandidate

namespace TypeSystem

/-- The declared constructors of a class. -/
def constructorCandidates (ts : TypeSystem) (c : ClassCandidate) : List ConstructorCandidate :=
  (ts.constructors c.fqn).map (.ofMember · c.erasure c.enclosingType?)

/-- The implicit default constructor, if the argument types apply to it. -/
def defaultConstructor (ts : TypeSystem) (c : ClassCandidate) (args : Option (List TypeRef)) :
    List ResolveResult :=
  match args with
  | none => [c.result .unknown none]
  | some args =>
    let applies := match c.enclosingType?, args with
      | none, [] => true
      | some t, [a] => ts.isAssignable a t
      | _, _ => false
    if applies then [c.result .applicable none] else []

/-- The constructors of a class, those that apply if argument types are given. -/
def constructorsOf (ts : TypeSystem) (c : ClassCandidate) (args : Option (List TypeRef)) :
    List ResolveResult :=
  match ts.constructorCandidates c, args with
  | [], args => ts.defaultConstructor c args
  | candidates, none => candidates.map fun k => c.result .unknown (some k)
  | candidates, some args =>
    (Applicability.select ts ConstructorCandidate.effective candidates args).map fun k =>
      c.result .applicable (some k)

end TypeSystem
end GroovyNew
