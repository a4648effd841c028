/-
# Parameters do not tell map literals apart

The type of a map literal shows the labels and the types of its values, and two such types are the same
only if all of these are.  A parameter never shows labels: its type is read from a text, its names are
resolved, and its type parameters are replaced by the types of class references, none of which puts a map
literal where subtyping looks for one (`TypeRef.IsUnlabelled`).  Such a parameter accepts every map literal
or none (`TypeSystem.isSubtype_map`).

So two arguments that no parameter tells apart (`TypeSystem.Indistinct`) are exchanged without a change of
what is selected, in both arities (`Applicability.select_eq_of_indistinct`).
-/

import GroovyNew.Normalize
import GroovyNew.Proofs.Applicability.Widening
import GroovyNew.Proofs.TypeRef.Bindings
import GroovyNew.Proofs.TypeRef.RoundTrip
import GroovyNew.Resolve.Constructors
import Mathlib.Data.List.Forall2

namespace GroovyNew

/-! ### Types that show no labels -/

namespace TypeRef

/-- The type is no map literal's, nor an array of one or a wildcard bounded by one.  Type arguments are
not looked at: subtyping erases them. -/
def IsUnlabelled : TypeRef → Prop
  | .map _ => False
  | .array element _ => element.IsUnlabelled
  | .wildcard (some bound) _ => bound.IsUnlabelled
  | _ => True

theorem isUnlabelled_resolveName (typeName? : String → Option String) (typeParameters : List String)
    (name : String) : (resolveName typeName? typeParameters name).IsUnlabelled := by
  unfold resolveName
  split
  · trivial
  · split <;> trivial

theorem isUnlabelled_arrayOver {t : TypeRef} (h : t.IsUnlabelled) (dimensions : Nat) :
    (t.arrayOver dimensions).IsUnlabelled := by
  cases t <;> exact h

theorem isUnlabelled_arrayOf {t : TypeRef} (h : t.IsUnlabelled) : t.arrayOf.IsUnlabelled := by
  cases t <;> exact h

theorem isUnlabelled_of_element? {t element : TypeRef} (h : t.IsUnlabelled)
    (he : t.element? = some element) : element.IsUnlabelled := by
  cases t with
  | array e n =>
    obtain rfl := Option.some.inj he
    split <;> exact h
  | _ => cases he

/-- The type that a text denotes shows no labels. -/
theorem IsSourceShaped.isUnlabelled {t : TypeRef} (h : t.IsSourceShaped) : t.IsUnlabelled := by
  induction h with
  | array _ _ _ ih => exact ih
  | bounded _ _ ih => exact ih
  | _ => trivial

theorem isUnlabelled_normalize (typeName? : String → Option String) (typeParameters : List String) :
    ∀ {t : TypeRef}, t.IsUnlabelled → (t.normalize typeName? typeParameters).IsUnlabelled
  | .raw name, _ => isUnlabelled_resolveName typeName? typeParameters name
  | .id name, _ => isUnlabelled_resolveName typeName? typeParameters name
  | .generic _ _, _ => trivial
  | .array element _, h => isUnlabelled_normalize (t := element) typeName? typeParameters h
  | .wildcard none _, _ => trivial
  | .wildcard (some bound) _, h => isUnlabelled_normalize (t := bound) typeName? typeParameters h
  | .map _, h => h.elim
  | .unknown, _ => trivial

end TypeRef

/-- The type of a class reference shows no labels. -/
theorem CodeReference.isUnlabelled_type (ts : TypeSystem) (scope : Scope) (r : CodeReference) :
    (r.type ts scope).IsUnlabelled := by
  obtain ⟨name, args⟩ := r
  cases args with
  | nil => exact TypeRef.isUnlabelled_resolveName (ts.typeName? · scope) scope.typeParameters name
  | cons a args => trivial

/-! ### Bindings -/

namespace Bindings

/-- No name is bound to a type that shows labels. -/
def IsUnlabelled (s : Bindings) : Prop := ∀ name t, s.get? name = some t → t.IsUnlabelled

end Bindings

theorem TypeRef.isUnlabelled_wrapped : ∀ {t : TypeRef}, t.IsUnlabelled → t.wrapped.IsUnlabelled
  | .raw _, _ | .id _, _ | .generic _ _, _ | .wildcard none _, _ | .unknown, _ => trivial
  | .array element _, h => isUnlabelled_wrapped (t := element) h
  | .wildcard (some bound) _, h => isUnlabelled_wrapped (t := bound) h
  | .map _, h => h.elim

/-- Replacing names by types that show no labels brings in none. -/
theorem TypeRef.isUnlabelled_subst {s : Bindings} (hs : s.IsUnlabelled) :
    ∀ {t : TypeRef}, t.IsUnlabelled → (t.subst s).IsUnlabelled
  | .raw name, h => Bindings.Each.getD hs name h
  | .id name, h => Bindings.Each.getD hs name h
  | .generic _ _, _ => trivial
  | .array element dimensions, h =>
    isUnlabelled_arrayOver (isUnlabelled_subst (t := element) hs h) dimensions
  | .wildcard none _, _ => trivial
  | .wildcard (some bound) _, h => isUnlabelled_subst (t := bound) hs h
  | .map _, h => h.elim
  | .unknown, _ => trivial

theorem TypeRef.isUnlabelled_apply {s : Bindings} (hs : s.IsUnlabelled) {t : TypeRef}
    (h : t.IsUnlabelled) : (t.apply s).IsUnlabelled :=
  isUnlabelled_wrapped (isUnlabelled_subst hs h)

/-! ### Map literals as arguments -/

namespace TypeSystem

variable {ts : TypeSystem}

/-- Subtyping after erasure takes every map literal for one class. -/
theorem isErasedSubtype_map (es fs : List (String × TypeRef)) (t : TypeRef) :
    ts.isErasedSubtype (.map es) t = ts.isErasedSubtype (.map fs) t ∧
      ts.isErasedSubtype t (.map es) = ts.isErasedSubtype t (.map fs) := ⟨rfl, rfl⟩

/-- **A type that shows no labels does not tell map literals apart**, above them and below them. -/
theorem isSubtype_map (es fs : List (String × TypeRef)) : ∀ {t : TypeRef}, t.IsUnlabelled →
    ts.isSubtype (.map es) t = ts.isSubtype (.map fs) t ∧
      ts.isSubtype t (.map es) = ts.isSubtype t (.map fs)
  | .map _, h => h.elim
  | .wildcard (some bound) isUpper, h => by
    -- An upper bound is asked in place of the wildcard, a lower one with the sides exchanged.
    have hbound := isSubtype_map es fs (t := bound) h
    cases isUpper <;> unfold isSubtype <;>
      simp [isErasedSubtype_map es fs, TypeRef.isUnknown, hbound]
  | .raw _, _ | .id _, _ | .generic _ _, _ | .array _ _, _ | .wildcard none _, _ | .unknown, _ => by
    unfold isSubtype
    simp [isErasedSubtype_map es fs, TypeRef.isUnknown, TypeRef.isRaw]

/-- No parameter whose type shows no labels tells the two arguments apart. -/
def Indistinct (ts : TypeSystem) (a b : TypeRef) : Prop :=
  ∀ t : TypeRef, t.IsUnlabelled → ts.isAssignable a t = ts.isAssignable b t

theorem Indistinct.refl (a : TypeRef) : ts.Indistinct a a := fun _ _ => rfl

/-- Map literals are indistinct. -/
theorem indistinct_map (es fs : List (String × TypeRef)) : ts.Indistinct (.map es) (.map fs) :=
  fun t h => by
    unfold isAssignable
    rw [(isSubtype_map es fs h).1]

theorem forall₂_indistinct_refl (args : List TypeRef) : List.Forall₂ ts.Indistinct args args :=
  List.forall₂_same.2 fun a _ => .refl a

end TypeSystem

/-! ### What applies to them -/

namespace Applicability

variable {ts : TypeSystem} {args args' : List TypeRef}

theorem matchAll_eq_of_indistinct {params : List ParameterInfo} (hp : ∀ p ∈ params, p.type.IsUnlabelled)
    (h : List.Forall₂ ts.Indistinct args args') : matchAll ts params args = matchAll ts params args' := by
  induction h generalizing params with
  | nil => rfl
  | cons ha _ ih =>
    cases params with
    | nil => rfl
    | cons p params =>
      rw [List.forall_mem_cons] at hp
      rw [matchAll, matchAll, ha p.type hp.1, ih hp.2]

theorem all_isAssignable_eq_of_indistinct {t : TypeRef} (ht : t.IsUnlabelled)
    (h : List.Forall₂ ts.Indistinct args args') :
    (args.all fun a => ts.isAssignable a t) = args'.all fun a => ts.isAssignable a t := by
  induction h with
  | nil => rfl
  | cons ha _ ih => rw [List.all_cons, List.all_cons, ha t ht, ih]

theorem matchTail_eq_of_indistinct {array element : TypeRef} (harray : array.IsUnlabelled)
    (helement : element.IsUnlabelled) (h : List.Forall₂ ts.Indistinct args args') :
    matchTail ts array element args = matchTail ts array element args' := by
  have hall := all_isAssignable_eq_of_indistinct helement h
  cases h with
  | nil => rfl
  | cons ha htail =>
    unfold matchTail
    rw [hall]
    cases htail with
    | nil => simp only [ha array harray, List.isEmpty_cons]
    | cons _ _ => rfl

theorem matchVariable_eq_of_indistinct {params : List ParameterInfo}
    (hp : ∀ p ∈ params, p.type.IsUnlabelled) (h : List.Forall₂ ts.Indistinct args args') :
    matchVariable ts params args = matchVariable ts params args' := by
  induction params generalizing args args' with
  | nil => rfl
  | cons p params ih =>
    rw [List.forall_mem_cons] at hp
    cases params with
    | nil =>
      unfold matchVariable
      split
      · rename_i element helement
        rw [matchTail_eq_of_indistinct hp.1 (TypeRef.isUnlabelled_of_element? hp.1 helement) h]
      · rfl
    | cons q params =>
      cases h with
      | nil => rfl
      | cons ha htail =>
        rw [matchVariable_cons_cons, matchVariable_cons_cons, ha p.type hp.1, ih hp.2 htail]

/-- **Indistinct arguments select the same candidates**, in the same phase. -/
theorem select_eq_of_indistinct {α : Type} {params : α → List ParameterInfo} {candidates : List α}
    (hp : ∀ k ∈ candidates, ∀ p ∈ params k, p.type.IsUnlabelled)
    (h : List.Forall₂ ts.Indistinct args args') :
    select ts params candidates args = select ts params candidates args' := by
  have hall : candidates.filter (fun k => matchAll ts (params k) args) =
      candidates.filter fun k => matchAll ts (params k) args' :=
    List.filter_congr fun k hk => matchAll_eq_of_indistinct (hp k hk) h
  have hvariable : candidates.filter (fun k => matchVariable ts (params k) args) =
      candidates.filter fun k => matchVariable ts (params k) args' :=
    List.filter_congr fun k hk => matchVariable_eq_of_indistinct (hp k hk) h
  rw [select, select, hall, hvariable]

end Applicability
end GroovyNew
