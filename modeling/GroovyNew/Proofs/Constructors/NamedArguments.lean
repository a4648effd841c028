/-
# What named arguments alone resolve to

Named arguments without positional ones are passed as one map, or set as properties after a constructor
without arguments has run.  `Resolver.resolve_namedOnly` says which constructors of the class this
selects, by their declared parameters alone (`TypeSystem.namedOnlyConstructors`):

1. all that accept the map as their only argument, if one of them has a map as its parameter;
2. else those without parameters, or the class alone if it declares no constructor;
3. else those whose only parameter has variable arity;
4. else those that the map selects like any other argument.

The enclosing instance of an inner class has to be available and accepted.  It then cancels in both
questions that resolution asks, about the map and about no arguments
(`TypeSystem.constructorsOf_withEnclosing`).
-/

import GroovyNew.Proofs.ClassIndex.Varargs
import GroovyNew.Proofs.Constructors.Enclosing

namespace GroovyNew

/-! ### Which constructors come first -/

namespace ConstructorCandidate

/-- The constructor has one declared parameter, and an argument of the type is assignable to it. -/
def acceptsAlone (ts : TypeSystem) (arg : TypeRef) (k : ConstructorCandidate) : Bool :=
  match k.declared with
  | [p] => ts.isAssignable arg p.type
  | _ => false

/-- The constructor has one declared parameter, whose class is `java.util.Map` or inherits from it. -/
def takesMap (ts : TypeSystem) (k : ConstructorCandidate) : Bool :=
  match k.declared with
  | [p] => p.type.erasure?.any (ts.isInheritor · TypeRef.mapName)
  | _ => false

/-- The constructor declares no parameter. -/
def takesNothing (k : ConstructorCandidate) : Bool := k.declared.isEmpty

/-- The constructor has one declared parameter, and that has variable arity. -/
def takesVarargs (k : ConstructorCandidate) : Bool :=
  match k.declared with
  | [p] => p.isVarargs
  | _ => false

/-- A variable-arity parameter has an array type. -/
def VarargsAreArrays (k : ConstructorCandidate) : Prop :=
  ∀ p ∈ k.declared, p.isVarargs = true → p.type.isArray = true

end ConstructorCandidate

open ConstructorCandidate

/-- The declared constructors that named arguments without positional ones select, which form a map of
the given type. -/
def TypeSystem.namedOnlySelection (ts : TypeSystem) (map : TypeRef)
    (candidates : List ConstructorCandidate) : List ConstructorCandidate :=
  if candidates.any fun k => k.takesMap ts && k.acceptsAlone ts map then
    candidates.filter (acceptsAlone ts map)
  else if candidates.any takesNothing then candidates.filter takesNothing
  else if candidates.any takesVarargs then candidates.filter takesVarargs
  else Applicability.select ts declared candidates [map]

/-- The constructors of a class that named arguments without positional ones select: the class alone if
it declares none. -/
def TypeSystem.namedOnlyConstructors (ts : TypeSystem) (c : ClassCandidate) (map : TypeRef) :
    List ResolveResult :=
  match ts.constructorCandidates c with
  | [] => [c.result .applicable none]
  | candidates =>
    (ts.namedOnlySelection map candidates).map fun k => c.result .applicable (some k)

/-! ### One argument and none -/

namespace Applicability

variable {ts : TypeSystem}

theorem matchAll_singleton (k : ConstructorCandidate) (arg : TypeRef) :
    matchAll ts k.declared [arg] = k.acceptsAlone ts arg := by
  unfold acceptsAlone
  split
  · rename_i p hp
    rw [hp, matchAll, matchAll, Bool.and_true]
  · rename_i hp
    cases hd : k.declared with
    | nil => rfl
    | cons p ps =>
      cases ps with
      | nil => exact absurd hd (hp p)
      | cons q qs => simp [matchAll]

theorem matchAll_nil (k : ConstructorCandidate) : matchAll ts k.declared [] = k.takesNothing := by
  unfold takesNothing
  cases k.declared <;> rfl

/-- Without arguments, a constructor applies by variable arity if its only parameter is so. -/
theorem matchVariable_nil {k : ConstructorCandidate} (hk : k.VarargsAreArrays) :
    matchVariable ts k.declared [] = k.takesVarargs := by
  unfold takesVarargs
  cases hd : k.declared with
  | nil => rfl
  | cons p ps =>
    cases ps with
    | nil =>
      cases hp : p.isVarargs with
      | false => simp [matchVariable, hp]
      | true =>
        have harray : p.type.isArray = true := hk p (by rw [hd]; exact List.mem_cons_self) hp
        obtain ⟨element, helement⟩ := TypeRef.exists_element_of_isArray harray
        simp [matchVariable, matchTail, hp, helement]
    | cons q qs => simp [matchVariable]

/-- What applies by variable arity has no map as its only parameter: the parameter is an array. -/
theorem takesMap_eq_false_of_matchVariable {k : ConstructorCandidate} (hk : k.VarargsAreArrays)
    {args : List TypeRef} (h : matchVariable ts k.declared args = true) : k.takesMap ts = false := by
  unfold takesMap
  split
  · rename_i p hp
    rw [hp, matchVariable, Bool.and_eq_true] at h
    have harray : p.type.isArray = true := hk p (by rw [hp]; exact List.mem_cons_self) h.1
    rw [TypeRef.erasure?_of_isArray harray]
    rfl
  · rfl

/-- What is selected applies by fixed or by variable arity. -/
theorem mem_select {candidates : List ConstructorCandidate} {args : List TypeRef}
    {k : ConstructorCandidate} (h : k ∈ select ts declared candidates args) :
    k ∈ candidates ∧
      (matchAll ts k.declared args = true ∨ matchVariable ts k.declared args = true) := by
  simp only [select] at h
  split at h
  · obtain ⟨hk, hmatch⟩ := List.mem_filter.1 h
    exact ⟨hk, .inr hmatch⟩
  · obtain ⟨hk, hmatch⟩ := List.mem_filter.1 h
    exact ⟨hk, .inl hmatch⟩

theorem isEmpty_filter {α : Type} (p : α → Bool) (items : List α) :
    (items.filter p).isEmpty = !items.any p := by
  induction items with
  | nil => rfl
  | cons a items ih => cases h : p a <;> simp [h, ih]

/-- What is selected without arguments. -/
theorem select_nil {candidates : List ConstructorCandidate}
    (hk : ∀ k ∈ candidates, k.VarargsAreArrays) :
    select ts declared candidates [] =
      if candidates.any takesNothing then candidates.filter takesNothing
      else candidates.filter takesVarargs := by
  have hfixed : candidates.filter (fun k => matchAll ts k.declared []) =
      candidates.filter takesNothing := List.filter_congr fun k _ => matchAll_nil k
  have hvariable : candidates.filter (fun k => matchVariable ts k.declared []) =
      candidates.filter takesVarargs := List.filter_congr fun k h => matchVariable_nil (hk k h)
  rw [select, hfixed, hvariable, isEmpty_filter]
  cases candidates.any takesNothing <;> rfl

/-- What is selected for one argument, if a constructor accepts it by fixed arity. -/
theorem select_singleton {candidates : List ConstructorCandidate} {arg : TypeRef}
    (h : candidates.any (acceptsAlone ts arg) = true) :
    select ts declared candidates [arg] = candidates.filter (acceptsAlone ts arg) := by
  have hfixed : candidates.filter (fun k => matchAll ts k.declared [arg]) =
      candidates.filter (acceptsAlone ts arg) :=
    List.filter_congr fun k _ => matchAll_singleton k arg
  rw [select, hfixed, isEmpty_filter, h]
  rfl

/-- A constructor with a map parameter is selected for one argument just if it accepts it alone. -/
theorem any_takesMap_select {candidates : List ConstructorCandidate}
    (hk : ∀ k ∈ candidates, k.VarargsAreArrays) (arg : TypeRef) :
    (select ts declared candidates [arg]).any (takesMap ts) =
      candidates.any fun k => k.takesMap ts && k.acceptsAlone ts arg := by
  cases h : candidates.any (acceptsAlone ts arg) with
  | true =>
    rw [select_singleton h, List.any_filter]
    simp only [Bool.and_comm]
  | false =>
    have hright : (candidates.any fun k => k.takesMap ts && k.acceptsAlone ts arg) = false :=
      List.any_eq_false.2 fun k hmem hand =>
        List.any_eq_false.1 h k hmem (Bool.and_eq_true_iff.1 hand).2
    rw [hright]
    refine List.any_eq_false.2 fun k hmem hmap => ?_
    obtain ⟨hcandidate, hmatch | hmatch⟩ := mem_select hmem
    · rw [matchAll_singleton] at hmatch
      exact List.any_eq_false.1 h k hcandidate hmatch
    · rw [takesMap_eq_false_of_matchVariable (hk k hcandidate) hmatch] at hmap
      cases hmap

end Applicability

/-! ### The questions about the map and about no arguments -/

namespace TypeSystem

variable {ts : TypeSystem} {c : ClassCandidate}

theorem takesSingleMap_result (k : ConstructorCandidate) :
    ts.takesSingleMap (c.result .applicable (some k)) = k.takesMap ts := by
  simp only [takesSingleMap, ClassCandidate.result, takesMap]
  cases k.declared with
  | nil => rfl
  | cons p ps =>
    cases ps with
    | nil => cases he : p.type.erasure? <;> simp [he]
    | cons q qs => rfl

/-- Of a class with declared constructors, the selected ones are given. -/
theorem declaredConstructors_of_ne_nil (h : ts.constructorCandidates c ≠ [])
    (args : List TypeRef) : ts.declaredConstructors c args =
      (Applicability.select ts declared (ts.constructorCandidates c) args).map fun k =>
        c.result .applicable (some k) := by
  unfold declaredConstructors
  split
  · exact absurd ‹_› h
  · rfl

/-- The question about the map finds a map constructor if one accepts the map. -/
theorem any_takesSingleMap_declaredConstructors (hne : ts.constructorCandidates c ≠ [])
    (hk : ∀ k ∈ ts.constructorCandidates c, k.VarargsAreArrays) (map : TypeRef) :
    (ts.declaredConstructors c [map]).any ts.takesSingleMap =
      (ts.constructorCandidates c).any fun k => k.takesMap ts && k.acceptsAlone ts map := by
  rw [declaredConstructors_of_ne_nil hne, List.any_map, ← Applicability.any_takesMap_select hk]
  exact congrArg _ (funext takesSingleMap_result)

/-- The question about no arguments finds nothing if no constructor takes none. -/
theorem isEmpty_declaredConstructors_nil (hne : ts.constructorCandidates c ≠ [])
    (hk : ∀ k ∈ ts.constructorCandidates c, k.VarargsAreArrays) :
    (ts.declaredConstructors c []).isEmpty =
      !((ts.constructorCandidates c).any takesNothing ||
        (ts.constructorCandidates c).any takesVarargs) := by
  rw [declaredConstructors_of_ne_nil hne, List.isEmpty_map, Applicability.select_nil hk]
  split
  · rename_i hnothing
    rw [Applicability.isEmpty_filter, hnothing, Bool.true_or]
  · rename_i hnothing
    rw [Applicability.isEmpty_filter, Bool.eq_false_iff.2 hnothing, Bool.false_or]

/-- **Asking about the map and then about no arguments** selects as `namedOnlyConstructors` says. -/
theorem resolveNamed_declaredConstructors
    (hk : ∀ k ∈ ts.constructorCandidates c, k.VarargsAreArrays) (map : TypeRef) :
    ts.resolveNamed (ts.declaredConstructors c) map = ts.namedOnlyConstructors c map := by
  cases hks : ts.constructorCandidates c with
  | nil => simp [resolveNamed, declaredConstructors, namedOnlyConstructors, hks]
  | cons k ks =>
    have hne : ts.constructorCandidates c ≠ [] := by simp [hks]
    have hright : ts.namedOnlyConstructors c map =
        (ts.namedOnlySelection map (ts.constructorCandidates c)).map fun k =>
          c.result .applicable (some k) := by
      simp only [namedOnlyConstructors, hks]
    simp only [resolveNamed, any_takesSingleMap_declaredConstructors hne hk,
      isEmpty_declaredConstructors_nil hne hk, hright, namedOnlySelection]
    split
    · rename_i hmaps
      have haccepts : (ts.constructorCandidates c).any (acceptsAlone ts map) = true := by
        obtain ⟨k, hk, hand⟩ := List.any_eq_true.1 hmaps
        exact List.any_eq_true.2 ⟨k, hk, (Bool.and_eq_true_iff.1 hand).2⟩
      rw [declaredConstructors_of_ne_nil hne, Applicability.select_singleton haccepts]
    · rw [declaredConstructors_of_ne_nil hne, declaredConstructors_of_ne_nil hne,
        Applicability.select_nil hk]
      cases (ts.constructorCandidates c).any takesNothing with
      | true => rfl
      | false => cases (ts.constructorCandidates c).any takesVarargs <;> rfl

end TypeSystem

/-! ### Resolution -/

namespace Resolver

variable {ctx : Context} {c : ClassCandidate} {e : NewExpr}
  {references : TypeSystem → Context → CodeReference → List ReferenceResult} {policy : ClassPick}

/-- **What named arguments alone resolve to.**  Over an index of declarations, a complete call with named
and without positional arguments is resolved to `namedOnlyConstructors` of its class, in declaration
order, if the class is not inner or its enclosing instance is available and accepted. -/
theorem resolve_namedOnly {ds : List ClassDecl} {index : ClassIndex}
    (hi : ClassIndex.ofDecls ds = .ok index)
    (hc : picked? { references, policy } index.typeSystem ctx e = some c) {a : ArgumentList}
    (ha : e.arguments? = some a) (hn : a.named ≠ []) (hp : a.positional = [])
    (henclosing : index.typeSystem.EnclosingFits ctx e c) :
    resolve { references, policy } index.typeSystem ctx false e =
      index.typeSystem.namedOnlyConstructors c (index.typeSystem.namedArgumentsType ctx a.named) := by
  have hk : ∀ k ∈ index.typeSystem.constructorCandidates c, k.VarargsAreArrays :=
    fun k hk p hp hv => ClassIndex.isArray_of_mem_constructorCandidates hi hk hp hv
  have hnamed : (!a.named.isEmpty && a.positional.isEmpty) = true := by simp [hn, hp]
  rw [resolve_eq_resolveDeclared hc henclosing, TypeSystem.resolveDeclared, ha]
  simp only [TypeSystem.resolveArguments, hnamed, if_true]
  exact TypeSystem.resolveNamed_declaredConstructors hk _

/-- A class with a constructor without parameters and one of variable arity. -/
def person : List ClassDecl :=
  [{ fqn := "Person"
     constructors := [{}, { parameters := [{ name := "ages", type := "int", varargs := true }] }] }]

/-- The index of `person`. -/
def personIndex : ClassIndex where
  classes := [{ ClassIndex.entryOf { fqn := "Person" } with
    constructors := [
      { name := "Person"
        fqn := "Person#Person()"
        kind := .constructor
        declaringType := "Person"
        type := .id "Person"
        parameters := some [] },
      { name := "Person"
        fqn := "Person#Person(int[])"
        kind := .constructor
        declaringType := "Person"
        type := .id "Person"
        parameters := some [.varargs "ages" (.raw "int")] }] }]

/-- `new Person(age: 3)`. -/
def newPerson : NewExpr :=
  (NewExpr.ofReference 1 ⟨"Person", []⟩).withChild
    (.arguments { named := [⟨"age", .literal (.integer "3")⟩] })

/-- `new Person(age: 3)` is resolved as `namedOnlyConstructors` says. -/
theorem resolve_namedOnly_newPerson : ClassIndex.ofDecls person = .ok personIndex ∧
    resolve {} personIndex.typeSystem {} false newPerson =
      personIndex.typeSystem.namedOnlyConstructors ⟨{ fqn := "Person" }, {}⟩
        (.map [("age", .raw "int")]) := by
  have hoption : (ClassIndex.ofDecls person).toOption = some personIndex := by decide +kernel
  have hi : ClassIndex.ofDecls person = .ok personIndex := by
    cases hd : ClassIndex.ofDecls person with
    | error error =>
      rw [hd] at hoption
      cases hoption
    | ok index =>
      rw [hd] at hoption
      exact congrArg _ (Option.some.inj hoption)
  have hpicked : picked? {} personIndex.typeSystem {} newPerson =
      some ⟨{ fqn := "Person" }, {}⟩ := by decide +kernel
  exact ⟨hi, resolve_namedOnly hi hpicked rfl (by simp) rfl nofun⟩

end Resolver
end GroovyNew
