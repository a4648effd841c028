/-
# Where parameter types come from

The parameters that arguments are matched against are those of a constructor in the index, with the type
parameters of the class replaced, after the enclosing instance of an inner class
(`ConstructorCandidate.mem_effective_ofMember_iff`).  The type parameters are replaced by what the class
reference binds them to, which are types of class references again (`ReferenceResult.each_substitution`),
and else by `java.lang.Object`.

No array stands in any of these types.  So the dimensions of the parameters are those of the declarations, and
fit a word whatever the reference (`ClassIndex.dimensionsBelow_of_mem_candidates`).
-/

import GroovyNew.Proofs.ClassIndex.Varargs
import GroovyNew.Proofs.Constructors.TypeParameters
import GroovyNew.Proofs.Inference.ConstructedClass

namespace GroovyNew

namespace ConstructorCandidate

variable {member : MemberInfo} {s : Bindings} {enclosing : Option TypeRef} {p : ParameterInfo}

/-- **The parameters that arguments are matched against** are the enclosing instance and those of the
constructor, with the names replaced. -/
theorem mem_effective_ofMember_iff :
    p ∈ (ofMember member s enclosing).effective ↔
      (∃ t, enclosing = some t ∧ p = { name := "this$0", type := t }) ∨
        ∃ q ∈ member.parameters.getD [], q.subst s = p := by
  cases enclosing with
  | none => simp [effective, ofMember]
  | some t => simp [effective, ofMember]

end ConstructorCandidate

/-! ### What references bind -/

section References

variable {ts : TypeSystem} {ctx : Context} {r : CodeReference} {c : ClassCandidate}

/-- A reference binds type parameters to types of class references. -/
theorem ReferenceResult.each_substitution {P : TypeRef → Prop}
    (hP : ∀ (scope : Scope) (arg : CodeReference), P (arg.type ts scope))
    (h : c ∈ candidates (ts.resolveReference ctx r)) : c.substitution.Each P := by
  rw [TypeSystem.candidates_resolveReference] at h
  obtain ⟨fqn, -, hclass⟩ := List.mem_filterMap.1 h
  obtain ⟨info, -, rfl⟩ := Option.map_eq_some_iff.1 hclass
  refine Bindings.each_ofParameters _ fun t ht => ?_
  rw [CodeReference.types_eq_map] at ht
  obtain ⟨arg, -, rfl⟩ := List.mem_map.1 ht
  exact hP ctx.toScope arg

/-- **The parameters of a class that a reference denotes have dimensions that fit a word**, over an index of
declarations. -/
theorem ClassIndex.dimensionsBelow_of_mem_candidates {ds : List ClassDecl} {index : ClassIndex}
    (hi : ofDecls ds = .ok index) (hds : ∀ d ∈ ds, d.FitsMemory)
    (h : c ∈ ReferenceResult.candidates (index.typeSystem.resolveReference ctx r)) {fqn : String}
    {member : MemberInfo} (hmember : member ∈ index.constructors fqn) {q : ParameterInfo}
    (hq : q ∈ member.parameters.getD []) : (q.type.subst c.erasure).DimensionsBelow wordSize := by
  have hreference : c.substitution.Each fun u => u.isArray = false ∧ u.DimensionsBelow wordSize :=
    ReferenceResult.each_substitution (fun scope arg => ⟨arg.isArray_type _ scope, fun element n hw =>
      absurd hw (arg.not_within_type _ scope element n)⟩) h
  have hclass : ∀ name, (TypeRef.id name).isArray = false ∧ (TypeRef.id name).DimensionsBelow wordSize :=
    fun name => ⟨rfl, fun element n hw => by cases hw⟩
  obtain ⟨hflat, hbelow⟩ := isFlat_of_mem_parameters hi hds hmember hq
  exact hflat.dimensionsBelow_subst hbelow (ClassCandidate.each_eraseUnbound hreference hclass _)

end References

end GroovyNew
