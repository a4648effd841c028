/-
# Variable-arity parameters have array types

A variable-arity parameter `T... x` is indexed with the array type `T[]`, and replacing type parameters
leaves an array an array.  So every variable-arity parameter of a constructor candidate over an index of
declarations has an element type to match arguments against, and no class after erasure
(`ClassIndex.isArray_of_mem_constructorCandidates`).

The dimensions that a declaration writes out are far fewer than a word can count, as its text has to be held
somewhere (`ClassDecl.FitsMemory`).  So the one that is added for the dots always fits: the parameter has the
array type over the type of the text, with nothing lost (`ClassIndex.exists_type_of_mem_parameters`).
-/

import GroovyNew.Proofs.ClassIndex.Indexing
import GroovyNew.Proofs.TypeRef.Dimensions
import GroovyNew.Resolve.Constructors

namespace GroovyNew

/-- The text of every constructor parameter is one that fits in memory. -/
def ClassDecl.FitsMemory (d : ClassDecl) : Prop :=
  ∀ c ∈ d.constructors, ∀ p ∈ c.parameters, p.type.utf8ByteSize < textLimit

namespace ClassIndex

theorem isArray_of_parameter {index : ClassIndex} {scope : Scope} {d : ParameterDecl}
    {p : ParameterInfo} (h : index.parameter scope d = .ok p) (hv : p.isVarargs = true) :
    p.type.isArray = true := by
  obtain ⟨t, -, hvarargs, htype⟩ := type_of_parameter h
  rw [htype, if_pos (hvarargs.symm.trans hv), TypeRef.isArray_wrapped, TypeRef.isArray_arrayOf]

variable {ds : List ClassDecl} {index : ClassIndex}

/-- **Variable-arity parameters have array types**, in every constructor of every class of an index of
declarations and under every substitution of type parameters. -/
theorem isArray_of_mem_constructorCandidates (h : ofDecls ds = .ok index) {c : ClassCandidate}
    {k : ConstructorCandidate} (hk : k ∈ index.typeSystem.constructorCandidates c) {p : ParameterInfo}
    (hp : p ∈ k.declared) (hv : p.isVarargs = true) : p.type.isArray = true := by
  obtain ⟨member, hmember, rfl⟩ := List.mem_map.1 hk
  obtain ⟨q, hq, rfl⟩ := List.mem_map.1 hp
  obtain ⟨_, -, _, -, _, -, hd⟩ := exists_parameter_of_ofDecls h hmember hq
  exact TypeRef.isArray_apply (isArray_of_parameter hd hv) c.erasure

/-! ### Nothing is lost -/

variable (h : ofDecls ds = .ok index) (hds : ∀ d ∈ ds, d.FitsMemory) {fqn : String} {member : MemberInfo}
  (hmember : member ∈ index.constructors fqn) {q : ParameterInfo} (hq : q ∈ member.parameters.getD [])
include h hds hmember hq

/-- A parameter in an index of declarations has a flat type of not too many dimensions, or the array type
over one for a variable number of arguments. -/
theorem exists_type_of_mem_parameters :
    ∃ t : TypeRef, t.IsFlat ∧ t.arrayOf.DimensionsBelow wordSize ∧
      q.type = if q.isVarargs then t.arrayOf else t := by
  obtain ⟨d, hd, c, hc, p, hp, hparameter⟩ := exists_parameter_of_ofDecls h hmember hq
  obtain ⟨t, ht, hvarargs, htype⟩ := type_of_parameter hparameter
  have hflat : t.IsFlat := (TypeRef.isSourceShaped_of_ofText_eq_ok ht).isFlat
  have hbelow : t.DimensionsBelow (textLimit / 2) :=
    TypeRef.dimensionsBelow_of_ofText ht (Nat.le_of_lt (hds d hd c hc p hp))
  have harray : (t.normalize ((entries ds).typeName? ((entries ds).scopeOf d))
      ((entries ds).scopeOf d).typeParameters).arrayOf.DimensionsBelow wordSize :=
    ((hbelow.normalize _ _).arrayOf (by decide)).mono (by decide)
  rw [TypeRef.wrapped_of_dimensionsBelow harray, ← hvarargs] at htype
  exact ⟨_, hflat.normalize _ _, harray, htype⟩

/-- The parameters in an index of declarations are flat, and their dimensions fit a word. -/
theorem isFlat_of_mem_parameters : q.type.IsFlat ∧ q.type.DimensionsBelow wordSize := by
  obtain ⟨t, hflat, harray, htype⟩ := exists_type_of_mem_parameters h hds hmember hq
  rw [htype]
  split
  · exact ⟨hflat.arrayOf, harray⟩
  · exact ⟨hflat, harray.of_arrayOf⟩

end ClassIndex
end GroovyNew
