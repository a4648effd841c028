/-
# The enclosing instance decides nothing

A call of a constructor of an inner class passes the enclosing instance in front of the written
arguments, and the constructor takes it in front of the declared parameters.  `Resolver.resolve_inner`
says that a call which finds its enclosing instance around it is resolved as if neither were there: by
the declared parameters and the written arguments alone (`TypeSystem.declaredConstructors`).

An argument and a parameter in front cancel wherever the two match, in both arities
(`Applicability.select_cons`) and for the implicit default constructor.  They do match: the search for
the enclosing instance ends only at a class that is the outer class or inherits from it
(`TypeSystem.isAssignable_of_enclosingInstance?`).
-/

import GroovyNew.ClassIndex.Build
import GroovyNew.Resolve.Resolver

namespace GroovyNew

/-! ### A parameter in front that matches the argument in front -/

namespace Applicability

variable {ts : TypeSystem} {p : ParameterInfo} {a : TypeRef}

theorem matchAll_cons (ha : ts.isAssignable a p.type = true) (params : List ParameterInfo)
    (args : List TypeRef) : matchAll ts (p :: params) (a :: args) = matchAll ts params args := by
  rw [matchAll, ha, Bool.true_and]

theorem matchVariable_cons (hp : p.isVarargs = false) (ha : ts.isAssignable a p.type = true)
    (params : List ParameterInfo) (args : List TypeRef) :
    matchVariable ts (p :: params) (a :: args) = matchVariable ts params args := by
  cases params with
  | nil => simp [matchVariable, hp]
  | cons q params => simp [matchVariable, ha]

/-- **A matching parameter in front of every list selects the same candidates**, in the same phase and
the same order. -/
theorem select_cons {α : Type} {front params : α → List ParameterInfo} {candidates : List α}
    (hfront : ∀ k ∈ candidates, front k = p :: params k) (hp : p.isVarargs = false)
    (ha : ts.isAssignable a p.type = true) (args : List TypeRef) :
    select ts front candidates (a :: args) = select ts params candidates args := by
  have hall : candidates.filter (fun k => matchAll ts (front k) (a :: args)) =
      candidates.filter fun k => matchAll ts (params k) args := by
    refine List.filter_congr fun k hk => ?_
    rw [hfront k hk, matchAll_cons ha]
  have hvariable : candidates.filter (fun k => matchVariable ts (front k) (a :: args)) =
      candidates.filter fun k => matchVariable ts (params k) args := by
    refine List.filter_congr fun k hk => ?_
    rw [hfront k hk, matchVariable_cons hp ha]
  rw [select, select, hall, hvariable]

theorem select_congr {α : Type} {params params' : α → List ParameterInfo} {candidates : List α}
    (h : ∀ k ∈ candidates, params k = params' k) (args : List TypeRef) :
    select ts params candidates args = select ts params' candidates args := by
  have hall : candidates.filter (fun k => matchAll ts (params k) args) =
      candidates.filter fun k => matchAll ts (params' k) args :=
    List.filter_congr fun k hk => by rw [h k hk]
  have hvariable : candidates.filter (fun k => matchVariable ts (params k) args) =
      candidates.filter fun k => matchVariable ts (params' k) args :=
    List.filter_congr fun k hk => by rw [h k hk]
  rw [select, select, hall, hvariable]

end Applicability

/-! ### Constructors by their declared parameters -/

namespace TypeSystem

variable {ts : TypeSystem} {ctx : Context} {c : ClassCandidate} {e : NewExpr}

/-- The constructors of a class whose declared parameters the argument types match.  A class without
declared constructors takes no arguments. -/
def declaredConstructors (ts : TypeSystem) (c : ClassCandidate) (args : List TypeRef) :
    List ResolveResult :=
  match ts.constructorCandidates c with
  | [] => if args.isEmpty then [c.result .applicable none] else []
  | candidates =>
    (Applicability.select ts ConstructorCandidate.declared candidates args).map fun k =>
      c.result .applicable (some k)

/-- The constructors for a call, by declared parameters and written arguments. -/
def resolveDeclared (ts : TypeSystem) (ctx : Context) (e : NewExpr) (c : ClassCandidate) :
    List ResolveResult :=
  match e.arguments? with
  | none => []
  | some a => ts.resolveArguments ctx (ts.declaredConstructors c) a

theorem enclosing_of_mem_constructorCandidates {k : ConstructorCandidate}
    (hk : k ∈ ts.constructorCandidates c) : k.enclosing = c.enclosingType? := by
  obtain ⟨member, -, rfl⟩ := List.mem_map.1 hk
  rfl

/-- Where constructors take an enclosing instance, one that they accept cancels. -/
theorem constructorsOf_cons {outer t : TypeRef} (hc : c.enclosingType? = some outer)
    (ht : ts.isAssignable t outer = true) (args : List TypeRef) :
    ts.constructorsOf c (some (t :: args)) = ts.declaredConstructors c args := by
  have hfront : ∀ k ∈ ts.constructorCandidates c,
      k.effective = { name := "this$0", type := outer } :: k.declared := fun k hk => by
    rw [ConstructorCandidate.effective, enclosing_of_mem_constructorCandidates hk, hc]
  unfold constructorsOf declaredConstructors
  cases hks : ts.constructorCandidates c with
  | nil =>
    cases args with
    | nil => simp [defaultConstructor, hc, ht]
    | cons a args => simp [defaultConstructor, hc]
  | cons k ks =>
    rw [hks] at hfront
    exact congrArg _ (Applicability.select_cons hfront rfl ht args)

/-- Where constructors take no enclosing instance, the declared parameters are all. -/
theorem constructorsOf_of_enclosingType?_eq_none (hc : c.enclosingType? = none)
    (args : List TypeRef) : ts.constructorsOf c (some args) = ts.declaredConstructors c args := by
  have hall : ∀ k ∈ ts.constructorCandidates c, k.effective = k.declared := fun k hk => by
    rw [ConstructorCandidate.effective, enclosing_of_mem_constructorCandidates hk, hc]
  unfold constructorsOf declaredConstructors
  cases hks : ts.constructorCandidates c with
  | nil => cases args <;> simp [defaultConstructor, hc]
  | cons k ks =>
    rw [hks] at hall
    exact congrArg _ (Applicability.select_congr hall args)

/-! ### The enclosing instance is accepted -/

/-- An instance of a class that inherits from another is assignable to it. -/
theorem isAssignable_of_isInheritor {sub sup : String} (h : ts.isInheritor sub sup = true) :
    ts.isAssignable (.id sub) (.id sup) = true := by
  have hsub : ts.isSubtype (.id sub) (.id sup) = true := by
    unfold isSubtype
    by_cases he : sub = sup
    · simp [he]
    · by_cases ho : sup = TypeRef.objectName
      · simp [ho, TypeRef.isUnknown, TypeRef.isRaw]
      · simp [he, ho, TypeRef.isUnknown, isErasedSubtype, TypeRef.erasure?, h]
  rw [isAssignable, hsub, Bool.true_or]

/-- The search outwards ends at the outer class or at a class that inherits from it. -/
theorem isInheritor_of_enclosingFrom? {outer : String} {steps : Nat} {fqn found : String}
    (h : ts.enclosingFrom? outer steps fqn = some found) : ts.isInheritor found outer = true := by
  induction steps generalizing fqn with
  | zero => cases h
  | succ steps ih =>
    unfold enclosingFrom? at h
    split at h
    · rename_i hinherits
      obtain rfl := Option.some.inj h
      exact hinherits
    · split at h
      · exact ih h
      · cases h

/-- **Constructors of an inner class accept the enclosing instance** that is found around a call. -/
theorem isAssignable_of_enclosingInstance? {inner : TypeInfo} {t : TypeRef}
    (h : ts.enclosingInstance? ctx inner = some t) :
    ∃ outer, inner.enclosing? = some outer ∧ ts.isAssignable t (.id outer) = true := by
  unfold enclosingInstance? at h
  split at h
  · rename_i outer _ houter _
    split at h
    · cases h
    · obtain ⟨found, hfound, rfl⟩ := Option.map_eq_some_iff.1 h
      exact ⟨outer, houter, isAssignable_of_isInheritor (isInheritor_of_enclosingFrom? hfound)⟩
  · cases h

/-- A class is inner if it has an enclosing class. -/
theorem isInner_of_enclosing? {info : TypeInfo} {outer : String} (h : info.enclosing? = some outer) :
    info.isInner = true := (Option.ite_none_right_eq_some.1 h).1

/-- A class is inner only if it has an enclosing class. -/
theorem isInner_of_enclosing?_eq_none {info : TypeInfo} (h : info.enclosing? = none) :
    info.isInner = false := by
  unfold TypeInfo.enclosing? at h
  split at h
  · rename_i hinner
    rw [TypeInfo.isInner, h] at hinner
    cases hinner
  · rename_i hinner
    exact Bool.eq_false_iff.2 hinner

/-- The class is not inner, or an enclosing instance is available and its constructors accept it. -/
def EnclosingFits (ts : TypeSystem) (ctx : Context) (e : NewExpr) (c : ClassCandidate) : Prop :=
  ∀ outer, c.info.enclosing? = some outer →
    ∃ t, ts.enclosingArgument? ctx e c = some t ∧ ts.isAssignable t (.id outer) = true

/-- An enclosing instance that is found around a call without qualifier fits. -/
theorem enclosingFits_of_enclosingInstance? (hq : e.qualifier = none) {t : TypeRef}
    (ht : ts.enclosingInstance? ctx c.info = some t) : ts.EnclosingFits ctx e c := by
  intro outer houter
  obtain ⟨outer', houter', hassign⟩ := isAssignable_of_enclosingInstance? ht
  obtain rfl := Option.some.inj (houter.symm.trans houter')
  refine ⟨t, ?_, hassign⟩
  simp only [enclosingArgument?, isInner_of_enclosing? houter, hq, ht, if_true]

/-- Where the enclosing instance fits, the declared parameters decide. -/
theorem constructorsOf_withEnclosing (h : ts.EnclosingFits ctx e c) (args : List TypeRef) :
    ts.constructorsOf c (some (ts.withEnclosing ctx e c args)) = ts.declaredConstructors c args := by
  cases houter : c.info.enclosing? with
  | none =>
    have htype : c.enclosingType? = none := by
      rw [ClassCandidate.enclosingType?, houter]
      rfl
    have hargument : ts.enclosingArgument? ctx e c = none := by
      rw [enclosingArgument?, isInner_of_enclosing?_eq_none houter]
      rfl
    rw [withEnclosing, hargument]
    exact constructorsOf_of_enclosingType?_eq_none htype args
  | some outer =>
    obtain ⟨t, hargument, hassign⟩ := h outer houter
    have htype : c.enclosingType? = some (.id outer) := by
      rw [ClassCandidate.enclosingType?, houter]
      rfl
    rw [withEnclosing, hargument]
    exact constructorsOf_cons htype hassign args

end TypeSystem

/-! ### Resolution -/

namespace Resolver

variable {ts : TypeSystem} {ctx : Context} {c : ClassCandidate} {e : NewExpr}
  {references : TypeSystem → Context → CodeReference → List ReferenceResult} {policy : ClassPick}

/-- Where the enclosing instance fits, a complete call is resolved by declared parameters and written
arguments. -/
theorem resolve_eq_resolveDeclared (hc : picked? { references, policy } ts ctx e = some c)
    (h : ts.EnclosingFits ctx e c) :
    resolve { references, policy } ts ctx false e = ts.resolveDeclared ctx e c := by
  have happlicable : applicable { references, policy } ts ctx e c = ts.declaredConstructors c :=
    funext (TypeSystem.constructorsOf_withEnclosing h)
  cases ha : e.arguments? with
  | none => simp [resolve, hc, resolveIn, TypeSystem.resolveDeclared, ha]
  | some a => simp [resolve, hc, resolveIn, TypeSystem.resolveDeclared, ha, happlicable]

/-- **The enclosing instance decides nothing.**  A complete call without qualifier, which constructs an
inner class and finds an enclosing instance around it, is resolved to the constructors that its written
arguments select by declared parameters, in the same order; and to a class without declared constructors
just when it would be if the class were not inner. -/
theorem resolve_inner (hc : picked? { references, policy } ts ctx e = some c)
    (hq : e.qualifier = none) {t : TypeRef} (ht : ts.enclosingInstance? ctx c.info = some t) :
    resolve { references, policy } ts ctx false e = ts.resolveDeclared ctx e c :=
  resolve_eq_resolveDeclared hc (TypeSystem.enclosingFits_of_enclosingInstance? hq ht)

/-- A class with an inner class, whose constructor takes any number of sizes. -/
def shelf : ClassIndex where
  classes := [ClassIndex.entryOf { fqn := "Shelf" },
    { ClassIndex.entryOf { fqn := "Shelf.Box", outer := some "Shelf" } with
      constructors := [{
        name := "Box"
        fqn := "Shelf.Box#Box(int[])"
        kind := .constructor
        declaringType := "Shelf.Box"
        type := .id "Shelf.Box"
        parameters := some [.varargs "sizes" (.raw "int")] }] }]

/-- `new Box(3)`. -/
def newBox : NewExpr :=
  (NewExpr.ofReference 1 ⟨"Box", []⟩).withChild (.arguments { positional := [.literal (.integer "3")] })

/-- In an instance method of the outer class, `new Box(3)` is resolved by the declared parameter. -/
theorem resolve_inner_newBox :
    resolve {} shelf.typeSystem { enclosingClass := some "Shelf" } false newBox =
      shelf.typeSystem.resolveDeclared { enclosingClass := some "Shelf" } newBox
        ⟨{ fqn := "Shelf.Box", outer := some "Shelf" }, {}⟩ := by
  have hpicked : picked? {} shelf.typeSystem { enclosingClass := some "Shelf" } newBox =
      some ⟨{ fqn := "Shelf.Box", outer := some "Shelf" }, {}⟩ := by decide +kernel
  have hinstance : shelf.typeSystem.enclosingInstance? { enclosingClass := some "Shelf" }
      { fqn := "Shelf.Box", outer := some "Shelf" } = some (.id "Shelf") := by decide +kernel
  exact resolve_inner hpicked rfl hinstance

end Resolver
end GroovyNew
