/-
# The three views of a call

A call can be resolved in two ways and listed in a third:

| view | constructors |
| --- | --- |
| `resolve false` | of the picked class, those that the arguments apply to |
| `resolve true` | of the picked class, all |
| `variants` | of every class that the reference may denote, all |

`Resolver.resolve_views` says how the three agree, whatever the reference denotes, classes and packages
mixed: checking the arguments drops constructors and does nothing else but mark the rest as checked, and
a policy picks which of the variants are looked at.

That the complete call checks the incomplete one is a relation of two lists, `ResolveResult.Checks`.  It
holds of the answers of the constructors of a class (`TypeSystem.checks_constructorsOf`).  Every path of
resolution ends in one such answer (`TypeSystem.exists_resolveArguments_eq`) or in nothing, so it holds of
the call.
-/

import GroovyNew.Resolve.Resolver
import Mathlib.Logic.Basic

namespace GroovyNew

/-! ### Results that come from checking others -/

namespace ResolveResult

/-- The result as it is before its arguments are checked. -/
def unchecked (r : ResolveResult) : ResolveResult := { r with applicability := .unknown }

/-- The results `checked` come from checking the results `all` against arguments: some are dropped, the
rest keep their order and all but their mark. -/
structure Checks (all checked : List ResolveResult) : Prop where
  sublist : (checked.map unchecked).Sublist all
  applicable : ∀ r ∈ checked, r.applicability = .applicable

/-- Checking may drop everything. -/
theorem Checks.nil (all : List ResolveResult) : Checks all [] where
  sublist := List.nil_sublist all
  applicable _ h := absurd h List.not_mem_nil

end ResolveResult

open ResolveResult

/-! ### What the policies pick -/

namespace ClassPick

variable {results : List ReferenceResult}

theorem pick?_first (results : List ReferenceResult) :
    ClassPick.first.pick? results = (ReferenceResult.candidates results).head? := rfl

theorem pick?_unique_eq_some {c : ClassCandidate} (h : ReferenceResult.candidates results = [c]) :
    ClassPick.unique.pick? results = some c := by
  unfold pick?
  rw [h]

theorem pick?_unique_eq_none (h : (ReferenceResult.candidates results).length ≠ 1) :
    ClassPick.unique.pick? results = none := by
  unfold pick?
  cases hs : ReferenceResult.candidates results with
  | nil => rfl
  | cons c cs =>
    cases cs with
    | nil => exact absurd (by rw [hs]; rfl) h
    | cons d ds => rfl

end ClassPick

/-! ### Constructors, checked and unchecked -/

/-- What is selected are some of the candidates, in their order. -/
theorem Applicability.select_sublist {α : Type} (ts : TypeSystem) (params : α → List ParameterInfo)
    (candidates : List α) (args : List TypeRef) :
    (select ts params candidates args).Sublist candidates := by
  simp only [select]
  split <;> exact List.filter_sublist

namespace TypeSystem

variable {ts : TypeSystem} {c : ClassCandidate}

/-- Without argument types nothing is marked as checked. -/
theorem unknown_of_mem_constructorsOf {r : ResolveResult} (h : r ∈ ts.constructorsOf c none) :
    r.applicability = .unknown := by
  unfold constructorsOf at h
  cases hks : ts.constructorCandidates c with
  | nil =>
    rw [hks] at h
    obtain rfl := List.mem_singleton.1 h
    rfl
  | cons k ks =>
    rw [hks] at h
    obtain ⟨k, -, rfl⟩ := List.mem_map.1 h
    rfl

/-- The implicit default constructor applies or does not. -/
theorem defaultConstructor_cases (ts : TypeSystem) (c : ClassCandidate) (args : List TypeRef) :
    ts.defaultConstructor c (some args) = [c.result .applicable none] ∨
      ts.defaultConstructor c (some args) = [] := ite_eq_or_eq _ _ _

/-- The implicit default constructor, checked against argument types. -/
theorem checks_defaultConstructor (c : ClassCandidate) (args : List TypeRef) :
    Checks (ts.defaultConstructor c none) (ts.defaultConstructor c (some args)) := by
  obtain hone | hnone := ts.defaultConstructor_cases c args
  · rw [hone]
    exact ⟨List.Sublist.refl _, fun r hr => by rw [List.mem_singleton.1 hr]; rfl⟩
  · rw [hnone]
    exact .nil _

/-- **Asking with argument types checks** what asking without them lists. -/
theorem checks_constructorsOf (c : ClassCandidate) (args : List TypeRef) :
    Checks (ts.constructorsOf c none) (ts.constructorsOf c (some args)) := by
  unfold constructorsOf
  cases ts.constructorCandidates c with
  | nil => exact checks_defaultConstructor c args
  | cons k ks =>
    refine ⟨?_, ?_⟩
    · rw [List.map_map]
      exact (Applicability.select_sublist ts ConstructorCandidate.effective (k :: ks) args).map _
    · intro r hr
      obtain ⟨k, -, rfl⟩ := List.mem_map.1 hr
      rfl

/-- Asking about named arguments ends in the answer to one question. -/
theorem exists_resolveNamed_eq (ts : TypeSystem) (applicable : List TypeRef → List ResolveResult)
    (map : TypeRef) : ∃ args, ts.resolveNamed applicable map = applicable args := by
  simp only [resolveNamed]
  split
  · exact ⟨[map], rfl⟩
  · split
    · exact ⟨[map], rfl⟩
    · exact ⟨[], rfl⟩

/-- Asking about the arguments of a call ends in the answer to one question. -/
theorem exists_resolveArguments_eq (ts : TypeSystem) (ctx : Context)
    (applicable : List TypeRef → List ResolveResult) (a : ArgumentList) :
    ∃ args, ts.resolveArguments ctx applicable a = applicable args := by
  unfold resolveArguments
  split
  · exact exists_resolveNamed_eq ts applicable _
  · exact ⟨_, rfl⟩

end TypeSystem

/-! ### Resolution -/

namespace Resolver

variable {ts : TypeSystem} {ctx : Context} {e : NewExpr}
  {references : TypeSystem → Context → CodeReference → List ReferenceResult} {policy : ClassPick}

/-- A complete call is resolved by checking what the incomplete one is resolved to. -/
theorem checks_resolve : Checks (resolve { references, policy } ts ctx true e)
    (resolve { references, policy } ts ctx false e) := by
  unfold resolve
  split
  · rename_i c hc
    cases ha : e.arguments? with
    | none =>
      simp only [resolveIn, ha]
      exact .nil _
    | some a =>
      simp only [resolveIn, ha]
      obtain ⟨args, hargs⟩ := TypeSystem.exists_resolveArguments_eq ts ctx
        (applicable { references, policy } ts ctx e c) a
      rw [hargs]
      exact TypeSystem.checks_constructorsOf c (ts.withEnclosing ctx e c args)
  · exact .nil _

theorem unknown_of_mem_resolve {x : ResolveResult}
    (h : x ∈ resolve { references, policy } ts ctx true e) : x.applicability = .unknown := by
  unfold resolve at h
  split at h
  · exact TypeSystem.unknown_of_mem_constructorsOf h
  · cases h

theorem unknown_of_mem_variants {x : ResolveResult}
    (h : x ∈ variants { references, policy } ts ctx e) : x.applicability = .unknown := by
  obtain ⟨c, -, hx⟩ := List.mem_flatMap.1 h
  exact TypeSystem.unknown_of_mem_constructorsOf hx

/-- The variants start with the constructors of the first class. -/
theorem resolve_prefix_variants : resolve { references, policy := .first } ts ctx true e <+:
    variants { references, policy := .first } ts ctx e := by
  unfold resolve variants
  rw [picked?, ClassPick.pick?_first]
  cases ReferenceResult.candidates (classes { references, policy := .first } ts ctx e) with
  | nil => exact List.nil_prefix
  | cons c cs =>
    rw [List.flatMap_cons]
    exact List.prefix_append _ _

/-- The only class is what both policies pick, and its constructors are the variants. -/
theorem resolve_unique_of_length_eq_one
    (h : (ReferenceResult.candidates (classes { references, policy := .unique } ts ctx e)).length = 1) :
    resolve { references, policy := .unique } ts ctx true e =
        variants { references, policy := .unique } ts ctx e ∧
      resolve { references, policy := .unique } ts ctx false e =
        resolve { references, policy := .first } ts ctx false e := by
  obtain ⟨c, hc⟩ := List.length_eq_one_iff.1 h
  have hunique : picked? { references, policy := .unique } ts ctx e = some c :=
    ClassPick.pick?_unique_eq_some hc
  have hfirst : picked? { references, policy := .first } ts ctx e = some c :=
    (ClassPick.pick?_first _).trans (congrArg List.head? hc)
  refine ⟨?_, ?_⟩
  · rw [resolve, hunique, variants, hc, List.flatMap_singleton]
    rfl
  · rw [resolve, hunique, resolve, hfirst]
    rfl

/-- Several classes, or none, leave the policy `unique` without a class. -/
theorem resolve_unique_of_length_ne_one
    (h : (ReferenceResult.candidates (classes { references, policy := .unique } ts ctx e)).length ≠ 1)
    (incomplete : Bool) : resolve { references, policy := .unique } ts ctx incomplete e = [] := by
  have hpicked : picked? { references, policy := .unique } ts ctx e = none :=
    ClassPick.pick?_unique_eq_none h
  rw [resolve, hpicked]

/-- **The three views of a call agree.**  The complete call is resolved to some of the constructors of
the incomplete one, in the same order, and every one of them is checked while nothing in the other two
views is.  By the policy `first`, the variants start with the constructors of the incomplete call.  By the
policy `unique` they are those constructors, and the complete call is resolved as by `first`, if the
reference denotes one class; else nothing is resolved. -/
theorem resolve_views
    (references : TypeSystem → Context → CodeReference → List ReferenceResult) (ts : TypeSystem)
    (ctx : Context) (e : NewExpr) :
    (∀ policy,
      ((resolve { references, policy } ts ctx false e).map unchecked).Sublist
          (resolve { references, policy } ts ctx true e) ∧
        (∀ x ∈ resolve { references, policy } ts ctx false e, x.applicability = .applicable) ∧
        (∀ x ∈ resolve { references, policy } ts ctx true e, x.applicability = .unknown) ∧
        ∀ x ∈ variants { references, policy } ts ctx e, x.applicability = .unknown) ∧
      resolve { references, policy := .first } ts ctx true e <+:
        variants { references, policy := .first } ts ctx e ∧
      ((ReferenceResult.candidates (classes { references } ts ctx e)).length = 1 →
        resolve { references, policy := .unique } ts ctx true e =
            variants { references, policy := .unique } ts ctx e ∧
          resolve { references, policy := .unique } ts ctx false e =
            resolve { references, policy := .first } ts ctx false e) ∧
      ((ReferenceResult.candidates (classes { references } ts ctx e)).length ≠ 1 →
        resolve { references, policy := .unique } ts ctx true e = [] ∧
          resolve { references, policy := .unique } ts ctx false e = []) := by
  refine ⟨fun policy => ?_, resolve_prefix_variants, resolve_unique_of_length_eq_one, fun h => ?_⟩
  · exact ⟨checks_resolve.sublist, checks_resolve.applicable, fun _ => unknown_of_mem_resolve,
      fun _ => unknown_of_mem_variants⟩
  · exact ⟨resolve_unique_of_length_ne_one h true, resolve_unique_of_length_ne_one h false⟩

end Resolver
end GroovyNew
