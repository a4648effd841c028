/-
# Selection by expansion

Parameters `P₁ p₁, …, Pₖ pₖ, T... x` stand for lists of types of fixed length.  For `n` arguments these
are `P₁, …, Pₖ` with `n - k` times `T`, and `P₁, …, Pₖ, T[]` (`Applicability.Expands`).  Matching builds
neither list: it takes the arguments before the last parameter one by one and then asks three questions
about the rest.  `Applicability.matchVariable_iff` says that it accepts the arguments that one of the
lists accepts pairwise.

`Applicability.select_eq_filter` is selection in these words, as an equation of lists: the candidates
that accept the arguments as they stand, and if there are none those that accept them after expansion,
each in its place.
-/

import GroovyNew.Proofs.Applicability.Widening
import Mathlib.Data.List.Forall2

namespace GroovyNew

/-- The first type is an array of the second: `T[]` of `T`, `T[][]` of `T[]`. -/
inductive TypeRef.HasElement : TypeRef → TypeRef → Prop
  | single {element : TypeRef} {dimensions : Nat} (hle : dimensions ≤ 1) :
      HasElement (.array element dimensions) element
  | nested {element : TypeRef} {dimensions : Nat} :
      HasElement (.array element (dimensions + 2)) (.array element (dimensions + 1))

theorem TypeRef.element?_eq_some_iff {t element : TypeRef} :
    t.element? = some element ↔ t.HasElement element := by
  constructor
  · intro h
    cases t with
    | array e dimensions =>
      obtain rfl := Option.some.inj h
      by_cases hle : dimensions ≤ 1
      · rw [if_neg (by omega)]
        exact .single hle
      · obtain ⟨d, rfl⟩ : ∃ d, dimensions = d + 2 := ⟨dimensions - 2, by omega⟩
        rw [if_pos (by omega)]
        exact .nested
    | _ => cases h
  · intro h
    cases h with
    | single hle => rw [element?, if_neg (by omega)]
    | nested => rw [element?, if_pos (by omega)]; rfl

namespace Applicability

variable {ts : TypeSystem}

/-! ### Pairwise -/

/-- The types accept the arguments pairwise. -/
def Accepts (ts : TypeSystem) (types args : List TypeRef) : Prop :=
  List.Forall₂ (fun t a => ts.isAssignable a t = true) types args

/-- The fixed lists of types that parameters, the last of them `T... x`, stand for when there are `n`
arguments. -/
inductive Expands (n : Nat) : List ParameterInfo → List TypeRef → Prop
  | elements {ps : List ParameterInfo} {last : ParameterInfo} {element : TypeRef}
      (hvarargs : last.isVarargs = true) (helement : last.type.HasElement element)
      (hle : ps.length ≤ n) :
      Expands n (ps ++ [last]) (ps.map (·.type) ++ List.replicate (n - ps.length) element)
  | array {ps : List ParameterInfo} {last : ParameterInfo} {element : TypeRef}
      (hvarargs : last.isVarargs = true) (helement : last.type.HasElement element)
      (hle : ps.length ≤ n) :
      Expands n (ps ++ [last]) (ps.map (·.type) ++ [last.type])

theorem accepts_cons_iff {t a : TypeRef} {types args : List TypeRef} :
    Accepts ts (t :: types) (a :: args) ↔ ts.isAssignable a t = true ∧ Accepts ts types args :=
  List.forall₂_cons

theorem accepts_append_iff {front back args : List TypeRef} :
    Accepts ts (front ++ back) args ↔
      ∃ before after, args = before ++ after ∧ Accepts ts front before ∧ Accepts ts back after := by
  constructor
  · intro h
    have htake := List.forall₂_take_append args front back h.flip
    have hdrop := List.forall₂_drop_append args front back h.flip
    exact ⟨_, _, (List.take_append_drop front.length args).symm, htake.flip, hdrop.flip⟩
  · rintro ⟨before, after, rfl, hbefore, hafter⟩
    exact List.rel_append hbefore hafter

theorem accepts_replicate_iff {n : Nat} {t : TypeRef} {args : List TypeRef} :
    Accepts ts (List.replicate n t) args ↔
      args.length = n ∧ ∀ a ∈ args, ts.isAssignable a t = true := by
  induction n generalizing args with
  | zero =>
    constructor
    · intro h
      cases h
      exact ⟨rfl, nofun⟩
    · rintro ⟨hlength, -⟩
      obtain rfl := List.length_eq_zero_iff.1 hlength
      exact .nil
  | succ n ih =>
    cases args with
    | nil =>
      constructor
      · intro h
        cases h
      · rintro ⟨hlength, -⟩
        cases hlength
    | cons a args =>
      rw [List.replicate_succ, accepts_cons_iff, ih, List.forall_mem_cons, List.length_cons,
        Nat.succ_inj, and_left_comm]

/-- Fixed arity is acceptance of the arguments by the types of the parameters. -/
theorem matchAll_iff {params : List ParameterInfo} {args : List TypeRef} :
    matchAll ts params args = true ↔ Accepts ts (params.map (·.type)) args := by
  induction params generalizing args with
  | nil =>
    cases args with
    | nil => exact ⟨fun _ => .nil, fun _ => rfl⟩
    | cons a args => exact ⟨nofun, nofun⟩
  | cons p params ih =>
    cases args with
    | nil => exact ⟨nofun, nofun⟩
    | cons a args => rw [matchAll, Bool.and_eq_true, ih, List.map_cons, accepts_cons_iff]

/-! ### Variable arity -/

/-- The rest of the arguments is accepted as elements, of which there may be none, or as the array. -/
theorem matchTail_iff {array element : TypeRef} {args : List TypeRef} :
    matchTail ts array element args = true ↔
      Accepts ts (List.replicate args.length element) args ∨ Accepts ts [array] args := by
  rw [accepts_replicate_iff]
  unfold matchTail
  rw [Bool.or_eq_true, Bool.or_eq_true, List.isEmpty_iff, List.all_eq_true]
  constructor
  · rintro ((rfl | harray) | helements)
    · exact .inl ⟨rfl, nofun⟩
    · split at harray
      · exact .inr (.cons harray .nil)
      · cases harray
    · exact .inl ⟨rfl, helements⟩
  · rintro (⟨-, helements⟩ | harray)
    · exact .inr helements
    · cases harray with
      | cons ha hrest =>
        cases hrest
        exact .inl (.inr ha)

/-- The arguments before a last parameter match one by one. -/
theorem matchVariable_append_iff {front back : List ParameterInfo} {args : List TypeRef}
    (hback : back ≠ []) :
    matchVariable ts (front ++ back) args = true ↔
      ∃ before after, args = before ++ after ∧ Accepts ts (front.map (·.type)) before ∧
        matchVariable ts back after = true := by
  induction front generalizing args with
  | nil =>
    constructor
    · intro h
      exact ⟨[], args, rfl, .nil, h⟩
    · rintro ⟨before, after, rfl, hbefore, hafter⟩
      cases hbefore
      exact hafter
  | cons p front ih =>
    obtain ⟨q, rest, hrest⟩ := List.exists_cons_of_ne_nil (List.append_ne_nil_of_right_ne_nil front hback)
    rw [List.cons_append, hrest]
    cases args with
    | nil =>
      constructor
      · intro h
        cases h
      · rintro ⟨before, after, hargs, hbefore, -⟩
        obtain ⟨rfl, -⟩ := List.append_eq_nil_iff.1 hargs.symm
        cases hbefore
    | cons a args =>
      rw [matchVariable_cons_cons, Bool.and_eq_true, ← hrest, ih]
      constructor
      · rintro ⟨ha, before, after, rfl, hbefore, hafter⟩
        exact ⟨a :: before, after, rfl, .cons ha hbefore, hafter⟩
      · rintro ⟨before, after, hargs, hbefore, hafter⟩
        cases hbefore with
        | cons ha hbefore =>
          obtain ⟨rfl, rfl⟩ := List.cons_eq_cons.1 hargs
          exact ⟨ha, _, after, rfl, hbefore, hafter⟩

/-- A single parameter of variable arity takes all arguments as its rest. -/
theorem matchVariable_singleton_iff {last : ParameterInfo} {args : List TypeRef} :
    matchVariable ts [last] args = true ↔ last.isVarargs = true ∧
      ∃ element, last.type.HasElement element ∧ matchTail ts last.type element args = true := by
  rw [matchVariable, Bool.and_eq_true]
  refine and_congr_right fun _ => ?_
  constructor
  · intro h
    cases helement : last.type.element? with
    | none =>
      rw [helement] at h
      cases h
    | some element =>
      rw [helement] at h
      exact ⟨element, TypeRef.element?_eq_some_iff.1 helement, h⟩
  · rintro ⟨element, helement, h⟩
    rw [TypeRef.element?_eq_some_iff.2 helement]
    exact h

/-- **Variable arity is fixed arity after expansion.** -/
theorem matchVariable_iff {params : List ParameterInfo} {args : List TypeRef} :
    matchVariable ts params args = true ↔
      ∃ types, Expands args.length params types ∧ Accepts ts types args := by
  constructor
  · intro h
    obtain rfl | ⟨ps, last, rfl⟩ := List.eq_nil_or_concat' params
    · cases h
    obtain ⟨before, after, rfl, hbefore, hlast⟩ :=
      (matchVariable_append_iff (List.cons_ne_nil last [])).1 h
    obtain ⟨hvarargs, element, helement, htail⟩ := matchVariable_singleton_iff.1 hlast
    have hlength : ps.length = before.length := by simpa using hbefore.length_eq
    have hle : ps.length ≤ (before ++ after).length := by
      rw [List.length_append]
      omega
    obtain helements | harray := matchTail_iff.1 htail
    · refine ⟨_, .elements hvarargs helement hle, accepts_append_iff.2 ⟨before, after, rfl, hbefore, ?_⟩⟩
      have hrest : (before ++ after).length - ps.length = after.length := by
        rw [List.length_append]
        omega
      rw [hrest]
      exact helements
    · exact ⟨_, .array hvarargs helement hle,
        accepts_append_iff.2 ⟨before, after, rfl, hbefore, harray⟩⟩
  · rintro ⟨types, hexpands, haccepts⟩
    cases hexpands with
    | elements hvarargs helement hle =>
      obtain ⟨before, after, hargs, hbefore, hafter⟩ := accepts_append_iff.1 haccepts
      rw [hargs, matchVariable_append_iff (List.cons_ne_nil _ [])]
      refine ⟨before, after, rfl, hbefore, matchVariable_singleton_iff.2 ⟨hvarargs, _, helement, ?_⟩⟩
      have hlength := (accepts_replicate_iff.1 hafter).1
      rw [← hlength] at hafter
      exact matchTail_iff.2 (.inl hafter)
    | array hvarargs helement hle =>
      obtain ⟨before, after, hargs, hbefore, hafter⟩ := accepts_append_iff.1 haccepts
      rw [hargs, matchVariable_append_iff (List.cons_ne_nil _ [])]
      refine ⟨before, after, rfl, hbefore, matchVariable_singleton_iff.2 ⟨hvarargs, _, helement, ?_⟩⟩
      exact matchTail_iff.2 (.inr hafter)

/-! ### Selection -/

open Classical in
/-- **Selection is a filter by expansion.**  The candidates whose parameters accept the arguments
pairwise are selected, in their order and as often as they occur.  Only if there are none, those are
that expand to a list which accepts the arguments pairwise. -/
theorem select_eq_filter {α : Type} (ts : TypeSystem) (params : α → List ParameterInfo)
    (candidates : List α) (args : List TypeRef) :
    select ts params candidates args =
      if ∃ c ∈ candidates, Accepts ts ((params c).map (·.type)) args then
        candidates.filter fun c => Accepts ts ((params c).map (·.type)) args
      else
        candidates.filter fun c => ∃ types, Expands args.length (params c) types ∧
          Accepts ts types args := by
  have hfixed : (candidates.filter fun c => matchAll ts (params c) args) =
      candidates.filter fun c => Accepts ts ((params c).map (·.type)) args := by
    refine List.filter_congr fun c _ => ?_
    rw [Bool.eq_iff_iff, matchAll_iff, decide_eq_true_iff]
  have hvariable : (candidates.filter fun c => matchVariable ts (params c) args) =
      candidates.filter fun c => ∃ types, Expands args.length (params c) types ∧
        Accepts ts types args := by
    refine List.filter_congr fun c _ => ?_
    rw [Bool.eq_iff_iff, matchVariable_iff, decide_eq_true_iff]
  simp only [select, hfixed, hvariable]
  by_cases hsome : ∃ c ∈ candidates, Accepts ts ((params c).map (·.type)) args
  · rw [if_pos hsome, if_neg]
    obtain ⟨c, hc, haccepts⟩ := hsome
    rw [List.isEmpty_iff]
    exact List.ne_nil_of_mem (List.mem_filter.2 ⟨hc, decide_eq_true haccepts⟩)
  · rw [if_neg hsome, if_pos]
    rw [List.isEmpty_iff, List.filter_eq_nil_iff]
    exact fun c hc haccepts => hsome ⟨c, hc, of_decide_eq_true haccepts⟩

end Applicability
end GroovyNew
