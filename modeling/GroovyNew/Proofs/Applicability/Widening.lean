/-
# An unknown argument

An argument of unknown type is assignable to every parameter.  So a candidate that applies to arguments
still applies, in the same way, when one of them becomes unknown (`Applicability.matchAll_set_unknown`,
`Applicability.matchVariable_set_unknown`).

It need not still be selected.  Selection prefers fixed arity, and the unknown argument may let another
candidate apply by fixed arity where none did before.  `Applicability.mem_select_set_unknown` says that
this is the only way in which a selected candidate is lost, and `Applicability.not_mem_select_labels`
that it happens.
-/

import GroovyNew.Applicability

namespace GroovyNew

/-- An argument of unknown type fits every parameter. -/
theorem TypeSystem.isAssignable_unknown (ts : TypeSystem) (param : TypeRef) :
    ts.isAssignable .unknown param = true := by
  have hsub : ts.isSubtype .unknown param = true := by
    unfold isSubtype
    simp [TypeRef.isUnknown]
  simp [isAssignable, hsub]

namespace Applicability

variable {ts : TypeSystem}

/-! ### Each way to apply -/

theorem matchAll_set_unknown {params : List ParameterInfo} {args : List TypeRef}
    (h : matchAll ts params args = true) (i : Nat) :
    matchAll ts params (args.set i .unknown) = true := by
  induction params generalizing args i with
  | nil =>
    cases args with
    | nil => exact h
    | cons a args => cases h
  | cons p params ih =>
    cases args with
    | nil => cases h
    | cons a args =>
      rw [matchAll, Bool.and_eq_true] at h
      cases i with
      | zero => rw [List.set_cons_zero, matchAll, ts.isAssignable_unknown, h.2, Bool.true_and]
      | succ i => rw [List.set_cons_succ, matchAll, h.1, ih h.2, Bool.true_and]

/-- What fits a type still fits it after an argument becomes unknown. -/
theorem all_isAssignable_set_unknown {args : List TypeRef} {param : TypeRef}
    (h : (args.all fun a => ts.isAssignable a param) = true) (i : Nat) :
    ((args.set i .unknown).all fun a => ts.isAssignable a param) = true := by
  rw [List.all_eq_true] at h ⊢
  intro a ha
  obtain hmem | rfl := List.mem_or_eq_of_mem_set ha
  · exact h a hmem
  · exact ts.isAssignable_unknown param

theorem matchTail_set_unknown {array element : TypeRef} {args : List TypeRef}
    (h : matchTail ts array element args = true) (i : Nat) :
    matchTail ts array element (args.set i .unknown) = true := by
  unfold matchTail at h ⊢
  simp only [Bool.or_eq_true] at h ⊢
  obtain (hempty | harray) | helements := h
  · rw [List.isEmpty_iff] at hempty
    exact .inl (.inl (by rw [hempty]; rfl))
  · cases args with
    | nil => cases harray
    | cons a args =>
      cases args with
      | nil =>
        cases i with
        | zero => exact .inl (.inr (ts.isAssignable_unknown array))
        | succ i => exact .inl (.inr harray)
      | cons b args => cases harray
  · exact .inr (all_isAssignable_set_unknown helements i)

/-- An argument before a last parameter meets its own parameter. -/
theorem matchVariable_cons_cons (p q : ParameterInfo) (params : List ParameterInfo) (a : TypeRef)
    (args : List TypeRef) : matchVariable ts (p :: q :: params) (a :: args) =
      (ts.isAssignable a p.type && matchVariable ts (q :: params) args) := by
  simp [matchVariable]

theorem matchVariable_set_unknown {params : List ParameterInfo} {args : List TypeRef}
    (h : matchVariable ts params args = true) (i : Nat) :
    matchVariable ts params (args.set i .unknown) = true := by
  induction params generalizing args i with
  | nil => cases h
  | cons p params ih =>
    cases params with
    | nil =>
      rw [matchVariable, Bool.and_eq_true] at h ⊢
      refine ⟨h.1, ?_⟩
      cases helement : p.type.element? with
      | none => rw [helement] at h; cases h.2
      | some element =>
        rw [helement] at h
        exact matchTail_set_unknown h.2 i
    | cons q params =>
      cases args with
      | nil => cases h
      | cons a args =>
        rw [matchVariable_cons_cons, Bool.and_eq_true] at h
        cases i with
        | zero =>
          rw [List.set_cons_zero, matchVariable_cons_cons, ts.isAssignable_unknown, h.2, Bool.true_and]
        | succ i => rw [List.set_cons_succ, matchVariable_cons_cons, h.1, ih h.2, Bool.true_and]

/-! ### Selection -/

variable {α : Type} {params : α → List ParameterInfo} {candidates : List α} {args : List TypeRef} {k : α}

/-- A candidate is selected if it applies by fixed arity, or if it applies by variable arity and none
applies by fixed arity. -/
theorem mem_select_iff : k ∈ select ts params candidates args ↔ k ∈ candidates ∧
    (matchAll ts (params k) args = true ∨
      (∀ d ∈ candidates, matchAll ts (params d) args ≠ true) ∧
        matchVariable ts (params k) args = true) := by
  simp only [select]
  split
  · rename_i hnone
    rw [List.isEmpty_iff, List.filter_eq_nil_iff] at hnone
    rw [List.mem_filter]
    constructor
    · rintro ⟨hk, hvariable⟩
      exact ⟨hk, .inr ⟨hnone, hvariable⟩⟩
    · rintro ⟨hk, hfixed | ⟨-, hvariable⟩⟩
      · exact absurd hfixed (hnone k hk)
      · exact ⟨hk, hvariable⟩
  · rename_i hsome
    rw [List.isEmpty_iff, List.filter_eq_nil_iff] at hsome
    rw [List.mem_filter]
    constructor
    · rintro ⟨hk, hfixed⟩
      exact ⟨hk, .inl hfixed⟩
    · rintro ⟨hk, hfixed | ⟨hnone, -⟩⟩
      · exact ⟨hk, hfixed⟩
      · exact absurd hnone hsome

/-- **An unknown argument excludes nothing but by the preference for fixed arity.**  A selected candidate
still applies when an argument becomes unknown.  It is still selected unless it applies by variable arity
only and some candidate applies by fixed arity. -/
theorem mem_select_set_unknown (h : k ∈ select ts params candidates args) (i : Nat) :
    (matchAll ts (params k) (args.set i .unknown) = true ∨
        matchVariable ts (params k) (args.set i .unknown) = true) ∧
      (k ∈ select ts params candidates (args.set i .unknown) ↔
        ((∃ d ∈ candidates, matchAll ts (params d) (args.set i .unknown) = true) →
          matchAll ts (params k) (args.set i .unknown) = true)) := by
  obtain ⟨hk, happlies⟩ := mem_select_iff.1 h
  have hstill : matchAll ts (params k) (args.set i .unknown) = true ∨
      matchVariable ts (params k) (args.set i .unknown) = true :=
    happlies.imp (matchAll_set_unknown · i) fun hv => matchVariable_set_unknown hv.2 i
  refine ⟨hstill, ?_⟩
  rw [mem_select_iff]
  constructor
  · rintro ⟨-, hfixed | ⟨hnone, -⟩⟩ ⟨d, hd, hmatch⟩
    · exact hfixed
    · exact absurd hmatch (hnone d hd)
  · intro hpreferred
    refine ⟨hk, ?_⟩
    by_cases hfixed : matchAll ts (params k) (args.set i .unknown) = true
    · exact .inl hfixed
    · have hnone : ∀ d ∈ candidates, matchAll ts (params d) (args.set i .unknown) ≠ true :=
        fun d hd hmatch => hfixed (hpreferred ⟨d, hd, hmatch⟩)
      exact .inr ⟨hnone, hstill.resolve_left hfixed⟩

/-- The parameters `(String... labels)`. -/
def labels : List ParameterInfo := [.varargs "labels" (.id TypeRef.stringName)]

/-- The parameters `(Target target, String label)`. -/
def targetAndLabel : List ParameterInfo :=
  [{ name := "target", type := .id "Target" }, { name := "label", type := .id TypeRef.stringName }]

/-- Two strings. -/
def twoStrings : List TypeRef := [.id TypeRef.stringName, .id TypeRef.stringName]

/-- Two strings are labels, also if the second becomes unknown. -/
theorem mem_select_labels : labels ∈ select .empty id [labels, targetAndLabel] twoStrings ∧
    labels ∈ select .empty id [labels, targetAndLabel] (twoStrings.set 1 .unknown) := by
  have hselected : labels ∈ select .empty id [labels, targetAndLabel] twoStrings := by
    decide +kernel
  have hnone : ∀ d ∈ [labels, targetAndLabel],
      matchAll .empty (id d) (twoStrings.set 1 .unknown) = false := by decide +kernel
  refine ⟨hselected, (mem_select_set_unknown hselected 1).2.2 fun ⟨d, hd, hmatch⟩ => ?_⟩
  rw [hnone d hd] at hmatch
  cases hmatch

/-- Two strings are labels, but not if the first becomes unknown: they may then be a target and a
label. -/
theorem not_mem_select_labels : labels ∈ select .empty id [labels, targetAndLabel] twoStrings ∧
    labels ∉ select .empty id [labels, targetAndLabel] (twoStrings.set 0 .unknown) := by
  decide +kernel

end Applicability
end GroovyNew
