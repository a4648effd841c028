/-
# Resolving a `new` expression

The class reference of the expression is resolved, one of its classes is picked, and the
constructors of that class are asked for those that the arguments apply to:

* an *incomplete* call lists every constructor, unchecked;
* a call without argument list has none;
* a call with named arguments only takes a constructor with a single map parameter; failing that,
  the constructors without parameters (the properties are set afterwards); failing that, whatever
  the map of the named arguments applies to as a plain argument;
* any other call passes the map of its named arguments, if there are any, before the positional
  arguments.

In each case the enclosing instance of an inner class comes first.

How references are resolved and constructors found are fields of the `Resolver`, with the type
system's own answers as the default.  `Resolver.queries` lists what the constructors of a class are
asked during a resolution, in order.
-/

import GroovyNew.Resolve.ClassPick
import GroovyNew.Resolve.Constructors
import GroovyNew.Resolve.Enclosing
import GroovyNew.Resolve.Reference

namespace GroovyNew

/-- The parts of resolution that can be exchanged. -/
structure Resolver where
  /-- What a reference denotes. -/
  references : TypeSystem → Context → CodeReference → List ReferenceResult :=
    TypeSystem.resolveReference
  /-- The constructors of a class, those that apply if argument types are given. -/
  constructors : TypeSystem → Context → ClassCandidate → Option (List TypeRef) →
      List ResolveResult := fun ts _ => ts.constructorsOf
  /-- Which class an ambiguous reference denotes. -/
  policy : ClassPick := .first

/-- A question for the constructors of a class. -/
structure ConstructorQuery where
  classFqn : String
  args : Option (List TypeRef)
  deriving DecidableEq, Inhabited, Repr

namespace TypeSystem

/-- The types of the arguments that a call gives: the map of the named ones, if there are any, and
the positional ones. -/
def explicitTypes (ts : TypeSystem) (ctx : Context) (a : ArgumentList) : List TypeRef :=
  (if a.named.isEmpty then [] else [ts.namedArgumentsType ctx a.named]) ++
    a.positional.map (ts.inferOrUnknown ctx)

/-- The types of the arguments that a call passes to a constructor of a class. -/
def argumentTypes (ts : TypeSystem) (ctx : Context) (e : NewExpr) (c : ClassCandidate) :
    List TypeRef :=
  match e.arguments? with
  | none => ts.withEnclosing ctx e c []
  | some a => ts.withEnclosing ctx e c (ts.explicitTypes ctx a)

/-- The result is a constructor whose only declared parameter is a map. -/
def takesSingleMap (ts : TypeSystem) (r : ResolveResult) : Bool :=
  match r.constructor with
  | none => false
  | some k => match k.declared with
    | [p] => match p.type.erasure? with
      | some c => ts.isInheritor c TypeRef.mapName
      | none => false
    | _ => false

/-- The constructors for named arguments that form a map of the given type, where `applicable` gives
those that apply to types of arguments. -/
def resolveNamed (ts : TypeSystem) (applicable : List TypeRef → List ResolveResult)
    (map : TypeRef) : List ResolveResult :=
  let withMap := applicable [map]
  if withMap.any ts.takesSingleMap then withMap
  else
    let plain := applicable []
    if plain.isEmpty then withMap else plain

/-- The constructors for the arguments of a call, where `applicable` gives those that apply to types
of arguments. -/
def resolveArguments (ts : TypeSystem) (ctx : Context)
    (applicable : List TypeRef → List ResolveResult) (a : ArgumentList) : List ResolveResult :=
  if !a.named.isEmpty && a.positional.isEmpty then
    ts.resolveNamed applicable (ts.namedArgumentsType ctx a.named)
  else applicable (ts.explicitTypes ctx a)

end TypeSystem

namespace Resolver

variable (r : Resolver) (ts : TypeSystem) (ctx : Context)

/-- Everything that the class reference of a call may denote. -/
def classes (e : NewExpr) : List ReferenceResult :=
  match e.reference? with
  | some ref => r.references ts ctx ref
  | none => []

/-- Every constructor of every class that the reference of a call may denote, unchecked. -/
def variants (e : NewExpr) : List ResolveResult :=
  (ReferenceResult.candidates (r.classes ts ctx e)).flatMap fun c =>
    r.constructors ts ctx c none

/-- The class that a call constructs. -/
def picked? (e : NewExpr) : Option ClassCandidate := r.policy.pick? (r.classes ts ctx e)

/-- The constructors of a class that apply to the enclosing instance, if one is passed, and arguments
of the given types. -/
def applicable (e : NewExpr) (c : ClassCandidate) (args : List TypeRef) : List ResolveResult :=
  r.constructors ts ctx c (some (ts.withEnclosing ctx e c args))

/-- The constructors of the picked class that a call may invoke. -/
def resolveIn (incomplete : Bool) (e : NewExpr) (c : ClassCandidate) : List ResolveResult :=
  if incomplete then r.constructors ts ctx c none
  else match e.arguments? with
    | none => []
    | some a => ts.resolveArguments ctx (r.applicable ts ctx e c) a

/-- The constructors that a call may invoke. -/
def resolve (incomplete : Bool) (e : NewExpr) : List ResolveResult :=
  match r.picked? ts ctx e with
  | some c => r.resolveIn ts ctx incomplete e c
  | none => []

/-! ### The questions asked -/

/-- The questions of `TypeSystem.resolveNamed`. -/
def namedQueries (e : NewExpr) (c : ClassCandidate) (named : List NamedArgument) :
    List ConstructorQuery :=
  let map := ts.namedArgumentsType ctx named
  let question args := ⟨c.fqn, some (ts.withEnclosing ctx e c args)⟩
  if (r.applicable ts ctx e c [map]).any ts.takesSingleMap then [question [map]]
  else [question [map], question []]

/-- The questions of `resolve`. -/
def queries (incomplete : Bool) (e : NewExpr) : List ConstructorQuery :=
  match r.picked? ts ctx e with
  | none => []
  | some c =>
    if incomplete then [⟨c.fqn, none⟩]
    else match e.arguments? with
      | none => []
      | some a =>
        if !a.named.isEmpty && a.positional.isEmpty then r.namedQueries ts ctx e c a.named
        else [⟨c.fqn, some (ts.argumentTypes ctx e c)⟩]

/-- The questions of `variants`. -/
def variantQueries (e : NewExpr) : List ConstructorQuery :=
  (ReferenceResult.candidates (r.classes ts ctx e)).map fun c => ⟨c.fqn, none⟩

end Resolver
end GroovyNew
