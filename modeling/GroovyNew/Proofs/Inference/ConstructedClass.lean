/-
# Inference and resolution name one class

The type of `new C<A>(..)` and the class whose constructors the call may invoke are computed from the same
reference on two paths.  Inference takes the class that the name denotes, and resolution the first of the
classes that it may denote.  `TypeSystem.erasure?_infer?_new` says that they agree: the first class that
resolution finds is the class that the name denotes, because the candidates that are not known classes
stand alone (`ClassIndex.exists_head?_candidates`).

Inference keeps two kinds of names as they are, and does not ask for a class: the primitives with `void`,
and the type parameters in scope.  A class that has such a name is found by resolution all the same
(`TypeSystem.erasure?_infer?_new_ne`).
-/

import GroovyNew.ClassIndex.Build
import GroovyNew.Proofs.ClassIndex.Candidates
import GroovyNew.Resolve.Resolver

namespace GroovyNew

/-- The class of a reference's type is the class of its name, without the type arguments. -/
theorem CodeReference.erasure?_type (ts : TypeSystem) (scope : Scope) (r : CodeReference) :
    (r.type ts scope).erasure? = (ts.normalize scope (.id r.name)).erasure? := by
  obtain ⟨name, args⟩ := r
  cases args with
  | nil => simp only [type]
  | cons a args => simp only [type, TypeRef.erasure?]

/-- A name that is neither primitive nor a type parameter is the class that it denotes, if it denotes
one. -/
theorem TypeSystem.erasure?_normalize_id {ts : TypeSystem} {scope : Scope} {name fqn : String}
    (hraw : TypeRef.isRawName name = false) (hparameter : name ∈ scope.typeParameters → name = fqn)
    (hdenotes : ts.typeName? name scope = some fqn) :
    (ts.normalize scope (.id name)).erasure? = some fqn := by
  simp only [normalize, TypeRef.normalize, TypeRef.resolveName, hraw, hdenotes, List.contains_iff_mem]
  split
  · cases ‹_›
  · split
    · rename_i hmem
      rw [TypeRef.erasure?, hparameter hmem]
    · rfl

namespace ReferenceResult

@[simp] theorem candidates_map_candidate (cs : List ClassCandidate) :
    candidates (cs.map .candidate) = cs := by
  induction cs with
  | nil => rfl
  | cons c cs ih => simpa [candidates, candidate?] using ih

end ReferenceResult

/-- The known ones among names are those that denote classes. -/
theorem ClassIndex.map_fqn_filterMap_classCandidate? (index : ClassIndex) (args : List TypeRef)
    (fqns : List String) :
    (fqns.filterMap (index.typeSystem.classCandidate? args)).map (·.fqn) = fqns.filter index.knows := by
  induction fqns with
  | nil => rfl
  | cons fqn fqns ih =>
    cases hinfo : index.typeInfo? fqn with
    | none =>
      have hknows : ¬index.knows fqn = true := fun hknows => by
        simpa [hinfo] using isSome_typeInfo?_of_knows hknows
      have hclass : index.typeSystem.classCandidate? args fqn = none := Option.map_eq_none_iff.2 hinfo
      rw [List.filterMap_cons_none hclass, List.filter_cons_of_neg hknows, ih]
    | some info =>
      obtain rfl : info.fqn = fqn := fqn_of_typeInfo?_eq_some hinfo
      have hclass : index.typeSystem.classCandidate? args info.fqn =
          some ⟨info, Bindings.ofParameters info.parameterNames args⟩ :=
        Option.map_eq_some_iff.2 ⟨info, hinfo, rfl⟩
      rw [List.filterMap_cons_some hclass, List.filter_cons_of_pos (knows_of_typeInfo?_eq_some hinfo),
        List.map_cons, ih, ClassCandidate.fqn]

namespace TypeSystem

variable {index : ClassIndex} {ctx : Context} {e : NewExpr} {r : CodeReference} {c : ClassCandidate}

/-- The classes that a reference denotes are those of its name's candidates that are known. -/
theorem candidates_resolveReference (ts : TypeSystem) (ctx : Context) (r : CodeReference) :
    ReferenceResult.candidates (ts.resolveReference ctx r) =
      (ts.typeCandidates r.name ctx.toScope).filterMap
        (ts.classCandidate? (CodeReference.types ts ctx.toScope r.typeArgs)) := by
  simp only [resolveReference]
  split
  · rename_i hempty
    rw [List.isEmpty_iff.1 hempty]
    split <;> rfl
  · rw [ReferenceResult.candidates_map_candidate]

/-- The first class that a reference denotes is the class that its name denotes. -/
theorem typeName?_of_head?_candidates
    (h : (ReferenceResult.candidates (index.typeSystem.resolveReference ctx r)).head? = some c) :
    index.typeSystem.typeName? r.name ctx.toScope = some c.fqn := by
  rw [candidates_resolveReference] at h
  obtain ⟨fqn, hhead, hclass⟩ := ClassIndex.exists_head?_candidates (fun fqn hknows => by
    rw [classCandidate?, Option.isSome_map]
    exact ClassIndex.isSome_typeInfo?_of_knows hknows) h
  obtain ⟨info, hinfo, rfl⟩ := Option.map_eq_some_iff.1 hclass
  have hfqn : info.fqn = fqn := ClassIndex.fqn_of_typeInfo?_eq_some hinfo
  rw [ClassCandidate.fqn, hfqn]
  exact hhead

/-- **Inference and resolution agree on the constructed class.**  Over an index of declarations, a call
whose reference resolves to a class, by a name that is neither primitive nor another type parameter in
scope, has a type whose erasure is that class. -/
theorem erasure?_infer?_new (hr : e.reference? = some r) (harray : e.arrayCount = 0)
    (hc : Resolver.picked? {} index.typeSystem ctx e = some c)
    (hraw : TypeRef.isRawName r.name = false)
    (hparameter : r.name ∈ ctx.typeParameters → r.name = c.fqn) :
    ∃ t, index.typeSystem.infer? ctx (.new e) = some t ∧ t.erasure? = some c.fqn := by
  have hhead : (ReferenceResult.candidates (index.typeSystem.resolveReference ctx r)).head? =
      some c := by
    rw [Resolver.picked?, Resolver.classes, hr] at hc
    exact hc
  have hdenotes := typeName?_of_head?_candidates hhead
  refine ⟨r.type index.typeSystem ctx.toScope, ?_, ?_⟩
  · simp only [infer?, NewExpr.type?, NewExpr.elementType?, hr, Option.map_some, harray, if_true]
  · rw [CodeReference.erasure?_type]
    exact erasure?_normalize_id hraw hparameter hdenotes

/-- Three classes of one package, two of which have names that inference keeps. -/
def oddlyNamed : ClassIndex where
  classes := [ClassIndex.entryOf { fqn := "p.Box", typeParameters := ["T"] },
    ClassIndex.entryOf { fqn := "p.T" }, ClassIndex.entryOf { fqn := "p.int" }]

/-- A place in the package where `T` is a type parameter. -/
def genericPlace : Context where
  package := some "p"
  typeParameters := ["T"]

/-- `new name<args>()`. -/
def newOf (name : String) (args : List CodeReference) : NewExpr :=
  (NewExpr.ofReference 1 ⟨name, args⟩).withChild (.arguments {})

/-- The type of `new Box<T>()` erases to the class of the package. -/
theorem erasure?_infer?_newBox :
    Resolver.picked? {} oddlyNamed.typeSystem genericPlace (newOf "Box" [⟨"T", []⟩]) =
        some ⟨{ fqn := "p.Box", typeParameters := [{ name := "T" }] }, ⟨[("T", .id "T")]⟩⟩ ∧
      ∃ t, oddlyNamed.typeSystem.infer? genericPlace (.new (newOf "Box" [⟨"T", []⟩])) = some t ∧
        t.erasure? = some "p.Box" := by
  have hpicked : Resolver.picked? {} oddlyNamed.typeSystem genericPlace (newOf "Box" [⟨"T", []⟩]) =
      some ⟨{ fqn := "p.Box", typeParameters := [{ name := "T" }] }, ⟨[("T", .id "T")]⟩⟩ := by
    decide +kernel
  exact ⟨hpicked, erasure?_infer?_new rfl rfl hpicked (by decide) (by decide)⟩

/-- `new int()` and `new T()` resolve to classes of the package, and their types erase to none of them. -/
theorem erasure?_infer?_new_ne :
    (Resolver.picked? {} oddlyNamed.typeSystem genericPlace (newOf "int" [])).map (·.fqn) =
        some "p.int" ∧
      (oddlyNamed.typeSystem.infer? genericPlace (.new (newOf "int" []))).bind TypeRef.erasure? = none ∧
      (Resolver.picked? {} oddlyNamed.typeSystem genericPlace (newOf "T" [])).map (·.fqn) =
        some "p.T" ∧
      (oddlyNamed.typeSystem.infer? genericPlace (.new (newOf "T" []))).bind TypeRef.erasure? =
        some "T" := by
  decide +kernel

end TypeSystem
end GroovyNew
