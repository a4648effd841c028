/-
# What the named arguments are decides nothing

The named arguments of a call are passed as one map, and no constructor of an index of declarations looks
into it.  `Session.fst_multiResolve_withNamed` compares two calls that differ in their named arguments
alone, which both have: whatever the labels and the values are and however many, and whether or not there
are positional arguments, the calls are resolved to the same constructors.

Two things make it so.  The parameters of a constructor candidate show no labels, because declarations name
their types by text and references bind type parameters to classes
(`TypeSystem.takesUnlabelled_of_ofDecls`).  And the arguments reach the constructors only as
lists of types that are indistinct to such parameters (`TypeSystem.constructorsOf_eq_of_indistinct`).
-/

import GroovyNew.Proofs.Applicability.Labels
import GroovyNew.Proofs.Constructors.ParameterTypes
import GroovyNew.Resolve.Session

namespace GroovyNew

/-! ### Other named arguments -/

section ModifyFirst

variable {α β : Type} {p : α → Bool} {f : α → α} {g : α → Option β}

/-- Changing the first item on which `g` is defined changes the first value of `g`. -/
theorem findSome?_modifyFirst {k : β → β} (hp : ∀ a, p a = (g a).isSome)
    (hg : ∀ a, g (f a) = (g a).map k) (items : List α) :
    (modifyFirst p f items).findSome? g = (items.findSome? g).map k := by
  induction items with
  | nil => rfl
  | cons a items ih =>
    unfold modifyFirst
    rw [hp a]
    cases ha : g a with
    | none => simp [ha, ih]
    | some b => simp [ha, hg]

/-- A change that `g` does not see leaves the first value of `g`. -/
theorem findSome?_modifyFirst_of_eq (hg : ∀ a, p a = true → g (f a) = g a) (items : List α) :
    (modifyFirst p f items).findSome? g = items.findSome? g := by
  induction items with
  | nil => rfl
  | cons a items ih =>
    unfold modifyFirst
    split
    · rename_i ha
      rw [List.findSome?_cons, List.findSome?_cons, hg a ha]
    · rw [List.findSome?_cons, List.findSome?_cons, ih]

end ModifyFirst

/-- The arguments with these named ones. -/
def ArgumentList.withNamed (named : List NamedArgument) (a : ArgumentList) : ArgumentList :=
  { a with named }

/-- The child with these named arguments, if it owns arguments. -/
def NewChild.withNamed (named : List NamedArgument) : NewChild → NewChild
  | .anonymous c => .anonymous { c with arguments := c.arguments.map (.withNamed named) }
  | .arguments a => .arguments (a.withNamed named)
  | child => child

namespace NewExpr

/-- The expression with these named arguments in the argument list that is read: that of the first
anonymous declaration, else the first one. -/
def withNamed (named : List NamedArgument) (e : NewExpr) : NewExpr :=
  if e.children.any NewChild.isAnonymous then
    { e with children := modifyFirst NewChild.isAnonymous (.withNamed named) e.children }
  else { e with children := modifyFirst NewChild.isArguments (.withNamed named) e.children }

variable (named : List NamedArgument) (e : NewExpr)

@[simp] theorem id_withNamed : (e.withNamed named).id = e.id := by
  unfold withNamed; split <;> rfl

@[simp] theorem qualifier_withNamed : (e.withNamed named).qualifier = e.qualifier := by
  unfold withNamed; split <;> rfl

/-- What is read off children that own no arguments stays the same. -/
theorem findSome?_withNamed {β : Type} {g : NewChild → Option β}
    (hg : ∀ child, g (child.withNamed named) = g child) :
    (e.withNamed named).children.findSome? g = e.children.findSome? g := by
  unfold withNamed
  split <;> exact findSome?_modifyFirst_of_eq (fun child _ => hg child) e.children

@[simp] theorem arrayCount_withNamed : (e.withNamed named).arrayCount = e.arrayCount := by
  rw [arrayCount, arrayCount, arrayDeclaration?, arrayDeclaration?,
    findSome?_withNamed named e fun child => by cases child <;> rfl]

/-- Some child is an anonymous declaration if one can be read off. -/
theorem any_isAnonymous : e.children.any NewChild.isAnonymous = e.anonymous?.isSome := by
  rw [Bool.eq_iff_iff, List.any_eq_true, anonymous?, List.findSome?_isSome_iff]
  rfl

/-- The anonymous declaration is the same up to its named arguments. -/
theorem anonymous?_withNamed : (e.withNamed named).anonymous? =
    e.anonymous?.map fun c => { c with arguments := c.arguments.map (.withNamed named) } := by
  unfold withNamed
  rw [any_isAnonymous]
  split
  · exact findSome?_modifyFirst (fun _ => rfl) (fun child => by cases child <;> rfl) e.children
  · -- The change is made to an argument list, which is no declaration.
    rename_i hsome
    have hnone : e.anonymous? = none := Option.not_isSome_iff_eq_none.1 hsome
    have hother : ∀ child : NewChild, child.isArguments = true →
        (child.withNamed named).anonymous? = child.anonymous? := fun child hchild => by
      cases child with
      | arguments a => rfl
      | _ => cases hchild
    rw [hnone]
    exact (findSome?_modifyFirst_of_eq hother e.children).trans hnone

@[simp] theorem reference?_withNamed : (e.withNamed named).reference? = e.reference? := by
  have hreference : (e.withNamed named).children.findSome? NewChild.reference? =
      e.children.findSome? NewChild.reference? :=
    findSome?_withNamed named e fun child => by cases child <;> rfl
  unfold reference?
  rw [anonymous?_withNamed, hreference]
  cases e.anonymous? <;> rfl

/-- The argument list that is read has the named arguments. -/
theorem arguments?_withNamed :
    (e.withNamed named).arguments? = e.arguments?.map (.withNamed named) := by
  unfold arguments?
  rw [anonymous?_withNamed]
  cases h : e.anonymous? with
  | some c => rfl
  | none =>
    unfold withNamed
    rw [any_isAnonymous, h]
    exact findSome?_modifyFirst (fun _ => rfl) (fun child => by cases child <;> rfl) e.children

end NewExpr

/-! ### The parameters of an index -/

/-- The parameters in an index of declarations show no labels. -/
theorem ClassIndex.isUnlabelled_of_mem_parameters {ds : List ClassDecl} {index : ClassIndex}
    (h : ofDecls ds = .ok index) {fqn : String} {member : MemberInfo}
    (hmember : member ∈ index.constructors fqn) {q : ParameterInfo}
    (hq : q ∈ member.parameters.getD []) : q.type.IsUnlabelled := by
  obtain ⟨d, -, _, -, p, -, hparameter⟩ := exists_parameter_of_ofDecls h hmember hq
  obtain ⟨t, ht, -, htype⟩ := type_of_parameter hparameter
  have hnormal := TypeRef.isUnlabelled_normalize ((entries ds).typeName? ((entries ds).scopeOf d))
    ((entries ds).scopeOf d).typeParameters (TypeRef.isSourceShaped_of_ofText_eq_ok ht).isUnlabelled
  rw [htype]
  split
  · exact TypeRef.isUnlabelled_wrapped (TypeRef.isUnlabelled_arrayOf hnormal)
  · exact hnormal

/-- A picked class is one of those that the results denote. -/
theorem ClassPick.mem_of_pick?_eq_some {policy : ClassPick} {results : List ReferenceResult}
    {c : ClassCandidate} (h : policy.pick? results = some c) :
    c ∈ ReferenceResult.candidates results := by
  unfold pick? at h
  split at h
  · exact List.mem_of_mem_head? h
  · rename_i d hone
    rw [hone, Option.some.inj h]
    exact List.mem_singleton_self c
  · cases h

namespace TypeSystem

variable {ts : TypeSystem} {ctx : Context} {c : ClassCandidate}

/-- The enclosing instance that constructors take is of a class. -/
theorem isUnlabelled_of_enclosingType? {t : TypeRef} (h : c.enclosingType? = some t) :
    t.IsUnlabelled := by
  obtain ⟨name, -, rfl⟩ := Option.map_eq_some_iff.1 h
  trivial

/-- No constructor of the class has a parameter whose type shows labels. -/
def TakesUnlabelled (ts : TypeSystem) (c : ClassCandidate) : Prop :=
  ∀ k ∈ ts.constructorCandidates c, ∀ p ∈ k.effective, p.type.IsUnlabelled

/-- **Constructors over an index of declarations have parameters that show no labels**, if the reference
binds the type parameters of the class to such types. -/
theorem takesUnlabelled_of_ofDecls {ds : List ClassDecl} {index : ClassIndex}
    (hi : ClassIndex.ofDecls ds = .ok index) (hc : c.substitution.IsUnlabelled) :
    index.typeSystem.TakesUnlabelled c := by
  intro k hk p hp
  obtain ⟨member, hmember, rfl⟩ := List.mem_map.1 hk
  obtain ⟨t, ht, rfl⟩ | ⟨q, hq, rfl⟩ := ConstructorCandidate.mem_effective_ofMember_iff.1 hp
  · exact isUnlabelled_of_enclosingType? ht
  · have hq := ClassIndex.isUnlabelled_of_mem_parameters hi hmember hq
    exact TypeRef.isUnlabelled_apply (ClassCandidate.each_eraseUnbound hc (fun _ => trivial) _) hq

/-! ### Indistinct arguments find the same constructors -/

variable {args args' : List TypeRef}

theorem defaultConstructor_eq_of_indistinct (h : List.Forall₂ ts.Indistinct args args') :
    ts.defaultConstructor c (some args) = ts.defaultConstructor c (some args') := by
  unfold defaultConstructor
  cases h with
  | nil => rfl
  | cons ha htail =>
    cases hc : c.enclosingType? with
    | none => rfl
    | some t =>
      cases htail with
      | nil => simp only [ha t (isUnlabelled_of_enclosingType? hc)]
      | cons _ _ => rfl

/-- **Constructors do not tell indistinct arguments apart**, where their parameters show no labels. -/
theorem constructorsOf_eq_of_indistinct (hc : ts.TakesUnlabelled c)
    (h : List.Forall₂ ts.Indistinct args args') :
    ts.constructorsOf c (some args) = ts.constructorsOf c (some args') := by
  unfold TakesUnlabelled at hc
  unfold constructorsOf
  cases hks : ts.constructorCandidates c with
  | nil => exact defaultConstructor_eq_of_indistinct h
  | cons k ks =>
    rw [hks] at hc
    exact congrArg _ (Applicability.select_eq_of_indistinct hc h)

theorem withEnclosing_withNamed (e : NewExpr) (named : List NamedArgument) :
    ts.withEnclosing ctx (e.withNamed named) c args = ts.withEnclosing ctx e c args := by
  rw [withEnclosing, withEnclosing, enclosingArgument?, enclosingArgument?, e.qualifier_withNamed]

theorem forall₂_indistinct_withEnclosing (e : NewExpr) (h : List.Forall₂ ts.Indistinct args args') :
    List.Forall₂ ts.Indistinct (ts.withEnclosing ctx e c args) (ts.withEnclosing ctx e c args') := by
  unfold withEnclosing
  split
  · exact .cons (.refl _) h
  · exact h

/-- The map of the named arguments comes first, where there are any. -/
theorem explicitTypes_of_ne_nil {a : ArgumentList} (ha : a.named ≠ []) :
    ts.explicitTypes ctx a =
      ts.namedArgumentsType ctx a.named :: a.positional.map (ts.inferOrUnknown ctx) := by
  rw [explicitTypes, List.isEmpty_eq_false_iff.2 ha]
  rfl

/-- Other named arguments select the same, where indistinct arguments do. -/
theorem resolveArguments_withNamed {applicable : List TypeRef → List ResolveResult}
    (happlicable : ∀ args args', List.Forall₂ ts.Indistinct args args' →
      applicable args = applicable args')
    {a : ArgumentList} {named : List NamedArgument} (ha : a.named ≠ []) (hn : named ≠ []) :
    ts.resolveArguments ctx applicable (a.withNamed named) = ts.resolveArguments ctx applicable a := by
  have hmap : applicable [ts.namedArgumentsType ctx named] =
      applicable [ts.namedArgumentsType ctx a.named] :=
    happlicable _ _ (.cons (indistinct_map _ _) .nil)
  have htypes : applicable (ts.explicitTypes ctx (a.withNamed named)) =
      applicable (ts.explicitTypes ctx a) := by
    rw [explicitTypes_of_ne_nil ha, explicitTypes_of_ne_nil (a := a.withNamed named) hn]
    exact happlicable _ _ (.cons (indistinct_map _ _) (forall₂_indistinct_refl _))
  have hnamed : (a.withNamed named).named.isEmpty = a.named.isEmpty := by
    rw [List.isEmpty_eq_false_iff.2 ha]
    exact List.isEmpty_eq_false_iff.2 hn
  rw [resolveArguments, resolveArguments, htypes, hnamed]
  simp only [resolveNamed, ArgumentList.withNamed, hmap]

end TypeSystem

/-! ### Resolution -/

namespace Resolver

variable {ds : List ClassDecl} {index : ClassIndex} {policy : ClassPick} {ctx : Context} {e : NewExpr}

/-- The constructors of a picked class have parameters that show no labels. -/
theorem takesUnlabelled_of_picked? (hi : ClassIndex.ofDecls ds = .ok index) {c : ClassCandidate}
    (hc : picked? { policy } index.typeSystem ctx e = some c) : index.typeSystem.TakesUnlabelled c := by
  refine TypeSystem.takesUnlabelled_of_ofDecls hi ?_
  have hmem := ClassPick.mem_of_pick?_eq_some hc
  unfold classes at hmem
  split at hmem
  · exact ReferenceResult.each_substitution (CodeReference.isUnlabelled_type _) hmem
  · cases hmem

/-- Other named arguments are resolved to the same constructors. -/
theorem resolve_withNamed (hi : ClassIndex.ofDecls ds = .ok index) {named : List NamedArgument}
    (he : e.namedArguments ≠ []) (hn : named ≠ []) (incomplete : Bool) :
    resolve { policy } index.typeSystem ctx incomplete (e.withNamed named) =
      resolve { policy } index.typeSystem ctx incomplete e := by
  have hpicked : picked? { policy } index.typeSystem ctx (e.withNamed named) =
      picked? { policy } index.typeSystem ctx e := by
    rw [picked?, picked?, classes, classes, e.reference?_withNamed]
  unfold resolve
  rw [hpicked]
  split
  · rename_i c hc
    have happlicable : applicable { policy } index.typeSystem ctx (e.withNamed named) c =
        applicable { policy } index.typeSystem ctx e c := by
      funext args
      rw [applicable, applicable, TypeSystem.withEnclosing_withNamed]
    have hindistinct : ∀ args args', List.Forall₂ index.typeSystem.Indistinct args args' →
        applicable { policy } index.typeSystem ctx e c args =
          applicable { policy } index.typeSystem ctx e c args' := fun args args' h =>
      TypeSystem.constructorsOf_eq_of_indistinct (takesUnlabelled_of_picked? hi hc)
        (TypeSystem.forall₂_indistinct_withEnclosing e h)
    unfold resolveIn
    rw [e.arguments?_withNamed, happlicable]
    cases ha : e.arguments? with
    | none => rfl
    | some a =>
      have hnamed : a.named ≠ [] := by rwa [NewExpr.namedArguments, ha] at he
      simp only [Option.map_some, TypeSystem.resolveArguments_withNamed hindistinct hnamed hn]
  · rfl

end Resolver

namespace Session

/-- Calls of one id that are resolved alike have the same results, remembered or not. -/
theorem fst_multiResolve_congr {s : Session} {c d : Call} {incomplete : Bool}
    (hid : c.expr.id = d.expr.id) (hvoid : c.isVoid = d.isVoid)
    (hresults : s.resolveUncached c incomplete = s.resolveUncached d incomplete) :
    (s.multiResolve c incomplete).1 = (s.multiResolve d incomplete).1 := by
  unfold multiResolve
  rw [hvoid]
  split
  · rfl
  · cases s.cache with
    | none => exact hresults
    | some cache => simp only [hid, hresults]

/-- **What the named arguments are decides nothing.**  Over an index of declarations, a call with named
arguments has the same results with any others in their place, complete and incomplete, whether or not
there are positional arguments and whatever the session remembers. -/
theorem fst_multiResolve_withNamed {ds : List ClassDecl} {index : ClassIndex}
    (hi : ClassIndex.ofDecls ds = .ok index) {s : Session} (htypes : s.types = index.typeSystem)
    {policy : ClassPick} (hresolver : s.resolver = { policy }) {e : NewExpr}
    {named : List NamedArgument} (he : e.namedArguments ≠ []) (hn : named ≠ []) (ctx : Context)
    (incomplete : Bool) :
    (s.multiResolve ⟨e.withNamed named, ctx⟩ incomplete).1 =
      (s.multiResolve ⟨e, ctx⟩ incomplete).1 := by
  refine fst_multiResolve_congr (e.id_withNamed named) ?_ ?_
  · rw [Call.isVoid, Call.isVoid, e.arrayCount_withNamed, e.reference?_withNamed]
  · rw [resolveUncached, resolveUncached, htypes, hresolver]
    exact Resolver.resolve_withNamed hi he hn incomplete

/-- A class that is constructed from a map and a number, or from anything. -/
def box : List ClassDecl :=
  [{ fqn := "Box"
     constructors :=
      [{ parameters :=
          [{ name := "sizes", type := "Map<String, ?>" }, { name := "weight", type := "int" }] },
        { parameters := [{ name := "parts", type := "Object", varargs := true }] }] }]

/-- `new Box(width: 3, 7)`. -/
def newBox : NewExpr :=
  (NewExpr.ofReference 1 ⟨"Box", []⟩).withChild (.arguments {
    named := [⟨"width", .literal (.integer "3")⟩]
    positional := [.literal (.integer "7")] })

/-- `new Box(label: 'a', inner: [:], 7)` takes the map and the number as `new Box(width: 3, 7)` does. -/
theorem fst_multiResolve_withNamed_newBox : newBox.namedArguments ≠ [] ∧
    ∃ index, ClassIndex.ofDecls box = .ok index ∧
      (multiResolve { types := index.typeSystem } ⟨newBox, {}⟩ false).1.map
          (fun r => r.constructor.map (·.member.fqn)) =
        [some "Box#Box(java.util.Map<java.lang.String, ?>,int)"] ∧
      ∀ incomplete, (multiResolve { types := index.typeSystem }
          ⟨newBox.withNamed [⟨"label", .literal (.str "a")⟩, ⟨"inner", .map []⟩], {}⟩ incomplete).1 =
        (multiResolve { types := index.typeSystem } ⟨newBox, {}⟩ incomplete).1 := by
  have he : newBox.namedArguments ≠ [] := List.cons_ne_nil _ _
  have hresolved : (ClassIndex.ofDecls box).toOption.map (fun index =>
      (multiResolve { types := index.typeSystem } ⟨newBox, {}⟩ false).1.map
        fun r => r.constructor.map (·.member.fqn)) =
      some [some "Box#Box(java.util.Map<java.lang.String, ?>,int)"] := by decide +kernel
  refine ⟨he, ?_⟩
  cases hi : ClassIndex.ofDecls box with
  | error e =>
    rw [hi] at hresolved
    cases hresolved
  | ok index =>
    rw [hi] at hresolved
    exact ⟨index, rfl, Option.some.inj hresolved,
      fst_multiResolve_withNamed hi rfl rfl he (List.cons_ne_nil _ _) {}⟩

end Session
end GroovyNew
