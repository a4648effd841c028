/-
# What a class reference denotes

Every class that the name may denote in the context, each with its type parameters bound to the type
arguments.  A name that denotes no class may denote a package.
-/

import GroovyNew.Infer
import GroovyNew.Resolve.Candidate

namespace GroovyNew
namespace TypeSystem

/-- The class candidate of a name and type arguments. -/
def classCandidate? (ts : TypeSystem) (args : List TypeRef) (fqn : String) :
    Option ClassCandidate :=
  (ts.typeInfo? fqn).map fun info =>
    ⟨info, Bindings.ofParameters info.parameterNames args⟩

/-- Everything that a reference may denote. -/
def resolveReference (ts : TypeSystem) (ctx : Context) (r : CodeReference) :
    List ReferenceResult :=
  let args := CodeReference.types ts ctx.toScope r.typeArgs
  let classes := (ts.typeCandidates r.name ctx.toScope).filterMap (ts.classCandidate? args)
  if classes.isEmpty then
    if ts.isPackage r.name then [.package r.name] else []
  else classes.map .candidate

end TypeSystem
end GroovyNew
