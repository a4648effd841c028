/-
# Flat types

An array of arrays can be written in two ways, `(T[])[]` and `T[][]`, and only the second is a type that
compares with others as an array of two dimensions.  A type is flat (`TypeRef.IsFlat`) if all its arrays, at
any depth, are of the second kind and have a dimension.

Whatever builds an array keeps types flat: one dimension more (`TypeRef.IsFlat.arrayOf`), several
(`TypeRef.IsFlat.arrayOver`), a substitution by flat types, which may put an array where an element was
(`TypeRef.IsFlat.subst`), and resolving the names, which puts no array anywhere (`TypeRef.IsFlat.normalize`).
Flat are the types of texts (`TypeRef.IsSourceShaped.isFlat`) and of class references
(`CodeReference.isFlat_type`) to begin with.
-/

import GroovyNew.Normalize
import GroovyNew.Proofs.TypeRef.Bindings
import GroovyNew.Proofs.TypeRef.Parts
import GroovyNew.Proofs.TypeRef.RoundTrip

namespace GroovyNew

namespace TypeRef

/-- Each array in the type, at any depth, has a dimension, and no array as its element. -/
def IsFlat (t : TypeRef) : Prop :=
  ∀ (element : TypeRef) (dimensions : Nat), (array element dimensions).Within t →
    1 ≤ dimensions ∧ element.isArray = false

variable {t : TypeRef}

/-! ### Flat types by their form -/

@[simp] theorem isFlat_raw (name : String) : (raw name).IsFlat := fun _ _ h => by cases h

@[simp] theorem isFlat_id (name : String) : (id name).IsFlat := fun _ _ h => by cases h

@[simp] theorem isFlat_unknown : unknown.IsFlat := fun _ _ h => by cases h

@[simp] theorem isFlat_unbounded (isUpper : Bool) : (wildcard none isUpper).IsFlat :=
  fun _ _ h => by cases h

/-- A name has no parts but itself. -/
theorem IsName.eq_of_within {part : TypeRef} (h : t.IsName) (hpart : part.Within t) : part = t := by
  cases t with
  | raw name => exact within_raw_iff.1 hpart
  | id name => exact within_id_iff.1 hpart
  | _ => exact h.elim

theorem IsName.not_within_array (h : t.IsName) (element : TypeRef) (dimensions : Nat) :
    ¬(array element dimensions).Within t := by
  intro hwithin
  obtain rfl := h.eq_of_within hwithin
  exact h

theorem IsName.isFlat (h : t.IsName) : t.IsFlat := fun element dimensions hwithin =>
  absurd hwithin (h.not_within_array element dimensions)

theorem IsName.isArray_eq_false (h : t.IsName) : t.isArray = false := by
  cases t with
  | array => exact h.elim
  | _ => rfl

theorem isFlat_generic_iff {base : TypeRef} {args : List TypeRef} :
    (generic base args).IsFlat ↔ base.IsFlat ∧ ∀ arg ∈ args, arg.IsFlat := by
  constructor
  · intro h
    exact ⟨fun e d hw => h e d (.base hw), fun arg mem e d hw => h e d (.arg mem hw)⟩
  · rintro ⟨hbase, hargs⟩ e d hw
    cases hw with
    | base hw => exact hbase e d hw
    | arg mem hw => exact hargs _ mem e d hw

theorem isFlat_array_iff {element : TypeRef} {dimensions : Nat} :
    (array element dimensions).IsFlat ↔
      (1 ≤ dimensions ∧ element.isArray = false) ∧ element.IsFlat := by
  constructor
  · intro h
    exact ⟨h element dimensions (.self _), fun e d hw => h e d (.element hw)⟩
  · rintro ⟨hself, helement⟩ e d hw
    cases hw with
    | self => exact hself
    | element hw => exact helement e d hw

theorem isFlat_bounded_iff {bound : TypeRef} {isUpper : Bool} :
    (wildcard (some bound) isUpper).IsFlat ↔ bound.IsFlat := by
  constructor
  · intro h e d hw
    exact h e d (.bound hw)
  · intro h e d hw
    cases hw with
    | bound hw => exact h e d hw

theorem isFlat_map_iff {entries : List (String × TypeRef)} :
    (map entries).IsFlat ↔ ∀ label u, (label, u) ∈ entries → u.IsFlat := by
  constructor
  · intro h label u mem e d hw
    exact h e d (.entry mem hw)
  · intro h e d hw
    cases hw with
    | entry mem hw => exact h _ _ mem e d hw

/-! ### Arrays over flat types -/

theorem IsFlat.arrayOver (h : t.IsFlat) {dimensions : Nat} (hd : 1 ≤ dimensions) :
    (t.arrayOver dimensions).IsFlat := by
  cases t with
  | array element inner =>
    obtain ⟨⟨-, helement⟩, hflat⟩ := isFlat_array_iff.1 h
    exact isFlat_array_iff.2 ⟨⟨Nat.le_add_right_of_le hd, helement⟩, hflat⟩
  | _ => exact isFlat_array_iff.2 ⟨⟨hd, rfl⟩, h⟩

theorem IsFlat.arrayOf (h : t.IsFlat) : t.arrayOf.IsFlat := by
  rw [arrayOf_eq_arrayOver]
  exact h.arrayOver (Nat.le_refl 1)

/-! ### Replaced and resolved names -/

/-- **Replacing names by flat types leaves a flat type flat.** -/
theorem IsFlat.subst {s : Bindings} (hs : s.Each IsFlat) : ∀ {t : TypeRef}, t.IsFlat → (t.subst s).IsFlat := by
  intro t
  induction t using induct with
  | raw name | id name => exact fun h => hs.getD name h
  | generic base args ih_base ih_args =>
    intro h
    obtain ⟨hbase, hargs⟩ := isFlat_generic_iff.1 h
    rw [TypeRef.subst, substList_eq_map]
    exact isFlat_generic_iff.2 ⟨ih_base hbase, List.forall_mem_map.2 fun arg mem =>
      ih_args arg mem (hargs arg mem)⟩
  | array element dimensions ih =>
    intro h
    -- The element may become an array, whose dimensions are then added to these.
    obtain ⟨⟨hd, -⟩, helement⟩ := isFlat_array_iff.1 h
    exact (ih helement).arrayOver hd
  | bounded bound isUpper ih => exact fun h => isFlat_bounded_iff.2 (ih (isFlat_bounded_iff.1 h))
  | map entries ih =>
    intro h
    rw [TypeRef.subst, substEntries_eq_map]
    refine isFlat_map_iff.2 fun label u mem => ?_
    obtain ⟨⟨label, v⟩, hv, heq⟩ := List.mem_map.1 mem
    obtain ⟨rfl, rfl⟩ := Prod.mk.inj heq
    exact ih label v hv (isFlat_map_iff.1 h label v hv)
  | unbounded _ | unknown => exact fun h => h

section

variable (typeName? : String → Option String) (typeParameters : List String)

/-- A name is resolved to a name. -/
theorem isName_resolveName (name : String) : (resolveName typeName? typeParameters name).IsName := by
  unfold resolveName
  split
  · trivial
  · split <;> trivial

/-- Resolving names makes no arrays. -/
theorem isArray_normalize (t : TypeRef) : (t.normalize typeName? typeParameters).isArray = t.isArray := by
  cases t with
  | raw name | id name => exact (isName_resolveName typeName? typeParameters name).isArray_eq_false
  | wildcard bound isUpper => cases bound <;> rfl
  | _ => rfl

/-- Each part of a type with its names resolved is a part of the type with its names resolved. -/
theorem within_normalize {part : TypeRef} : ∀ {t : TypeRef},
    part.Within (t.normalize typeName? typeParameters) →
      ∃ p : TypeRef, p.Within t ∧ p.normalize typeName? typeParameters = part := by
  intro t
  induction t using induct with
  | raw name | id name =>
    intro h
    exact ⟨_, .self _, ((isName_resolveName typeName? typeParameters name).eq_of_within h).symm⟩
  | generic base args ih_base ih_args =>
    intro h
    rw [TypeRef.normalize, normalizeList_eq_map] at h
    cases h with
    | self => exact ⟨_, .self _, by rw [TypeRef.normalize, normalizeList_eq_map]⟩
    | base h => exact (ih_base h).imp fun p hp => ⟨.base hp.1, hp.2⟩
    | arg mem h =>
      obtain ⟨arg, harg, rfl⟩ := List.mem_map.1 mem
      exact (ih_args arg harg h).imp fun p hp => ⟨.arg harg hp.1, hp.2⟩
  | array element dimensions ih =>
    intro h
    cases h with
    | self => exact ⟨_, .self _, rfl⟩
    | element h => exact (ih h).imp fun p hp => ⟨.element hp.1, hp.2⟩
  | bounded bound isUpper ih =>
    intro h
    cases h with
    | self => exact ⟨_, .self _, rfl⟩
    | bound h => exact (ih h).imp fun p hp => ⟨.bound hp.1, hp.2⟩
  | map entries ih =>
    intro h
    rw [TypeRef.normalize, normalizeEntries_eq_map] at h
    cases h with
    | self => exact ⟨_, .self _, by rw [TypeRef.normalize, normalizeEntries_eq_map]⟩
    | entry mem h =>
      obtain ⟨⟨label, u⟩, he, heq⟩ := List.mem_map.1 mem
      obtain ⟨rfl, rfl⟩ := Prod.mk.inj heq
      exact (ih label u he h).imp fun p hp => ⟨.entry he hp.1, hp.2⟩
  | unbounded _ | unknown =>
    intro h
    cases h
    exact ⟨_, .self _, rfl⟩

/-- An array in a type with its names resolved was an array of as many dimensions. -/
theorem exists_of_array_within_normalize {t element : TypeRef} {dimensions : Nat}
    (h : (array element dimensions).Within (t.normalize typeName? typeParameters)) :
    ∃ e : TypeRef, (array e dimensions).Within t ∧ e.normalize typeName? typeParameters = element := by
  obtain ⟨p, hp, heq⟩ := within_normalize typeName? typeParameters h
  cases p with
  | array e n =>
    obtain ⟨helement, rfl⟩ := TypeRef.array.inj heq
    exact ⟨e, hp, helement⟩
  | raw name | id name =>
    have hnone := (isName_resolveName typeName? typeParameters name).isArray_eq_false
    rw [show resolveName typeName? typeParameters name = _ from heq] at hnone
    cases hnone
  | wildcard bound isUpper => cases bound <;> cases heq
  | _ => cases heq

/-- **Resolving the names leaves a flat type flat.** -/
theorem IsFlat.normalize {t : TypeRef} (h : t.IsFlat) : (t.normalize typeName? typeParameters).IsFlat := by
  intro element dimensions hwithin
  obtain ⟨e, he, rfl⟩ := exists_of_array_within_normalize typeName? typeParameters hwithin
  rw [isArray_normalize]
  exact h e dimensions he

end

/-! ### Types that are written -/

/-- The type that a text denotes is flat. -/
theorem IsSourceShaped.isFlat (h : t.IsSourceShaped) : t.IsFlat := by
  induction h with
  | raw mem => exact isFlat_raw _
  | id dotted not_mem => exact isFlat_id _
  | generic base_shaped base_name args_ne_nil args_shaped ih_base ih_args =>
    exact isFlat_generic_iff.2 ⟨ih_base, ih_args⟩
  | @array element dimensions element_shaped element_flat pos ih =>
    have hnone : element.isArray = false := by
      cases element with
      | array => exact element_flat.elim
      | _ => rfl
    exact isFlat_array_iff.2 ⟨⟨pos, hnone⟩, ih⟩
  | unbounded => exact isFlat_unbounded true
  | bounded isUpper bound_shaped ih => exact isFlat_bounded_iff.2 ih

end TypeRef

namespace CodeReference

/-- A class reference denotes no array. -/
theorem isArray_type (ts : TypeSystem) (scope : Scope) (r : CodeReference) :
    (r.type ts scope).isArray = false := by
  obtain ⟨name, args⟩ := r
  cases args with
  | nil =>
    exact (TypeRef.isName_resolveName (ts.typeName? · scope) scope.typeParameters name).isArray_eq_false
  | cons arg args => rfl

mutual

/-- No array stands in the type of a class reference. -/
theorem not_within_type (ts : TypeSystem) (scope : Scope) (element : TypeRef) (dimensions : Nat) :
    ∀ r : CodeReference, ¬(TypeRef.array element dimensions).Within (r.type ts scope)
  | ⟨name, []⟩, h =>
    (TypeRef.isName_resolveName (ts.typeName? · scope) scope.typeParameters name).not_within_array _ _ h
  | ⟨name, arg :: args⟩, h => by
    have hname := TypeRef.isName_resolveName (ts.typeName? · scope) scope.typeParameters name
    cases h with
    | base h => exact hname.not_within_array _ _ h
    | arg mem h => exact not_within_types ts scope element dimensions (arg :: args) _ mem h

/-- No array stands in the types of class references. -/
theorem not_within_types (ts : TypeSystem) (scope : Scope) (element : TypeRef) (dimensions : Nat) :
    ∀ rs : List CodeReference, ∀ t ∈ types ts scope rs, ¬(TypeRef.array element dimensions).Within t
  | [] => fun _ ht => absurd ht List.not_mem_nil
  | r :: rs => List.forall_mem_cons.2
    ⟨not_within_type ts scope element dimensions r, not_within_types ts scope element dimensions rs⟩

end

/-- The type of a class reference is flat. -/
theorem isFlat_type (ts : TypeSystem) (scope : Scope) (r : CodeReference) : (r.type ts scope).IsFlat :=
  fun element dimensions h => absurd h (r.not_within_type ts scope element dimensions)

end CodeReference
end GroovyNew
