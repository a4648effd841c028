/-
# No type parameter reaches the arguments

Arguments are matched against the parameters that a constructor declares, with the type parameters of the
class replaced: by the type arguments of the reference, as far as these reach, and from there on by
`java.lang.Object`, which is the bound that indexed type parameters have.  So no type parameter of the class
is left in a parameter that arguments are matched against, however many type arguments are written
(`ClassIndex.constructors_mention_no_parameter`), as long as the type arguments bring none with them.

The bindings that fill in the missing type arguments (`Bindings.Fills`) are used for the parameters alone.
What a result tells of the class are the type arguments that are written.
-/

import GroovyNew.Proofs.ClassIndex.Candidates
import GroovyNew.Proofs.ClassIndex.Indexing
import GroovyNew.Proofs.Constructors.Views
import GroovyNew.Proofs.TypeRef.Bindings
import GroovyNew.Proofs.TypeRef.Parts
import GroovyNew.Resolve.Reference

namespace GroovyNew

/-! ### Names that a type mentions -/

namespace TypeRef

variable {t : TypeRef} {name : String} {b : Bindings}

/-- The name stands somewhere in the type, at any depth. -/
def Mentions (t : TypeRef) (name : String) : Prop := (raw name).Within t ∨ (id name).Within t

theorem mentions_id_iff {other : String} : (id name).Mentions other ↔ other = name := by
  simp [Mentions]

/-- A name that is left in a type is one that no type replaces, or stands in the type that replaces it. -/
theorem mentions_of_subst_eq {p leaf : TypeRef} (hleaf : leaf = raw name ∨ leaf = id name)
    (h : p.subst b = leaf) : (∃ n, b.get? n = some leaf) ∨ b.get? name = none := by
  cases p with
  | raw n | id n =>
    rw [subst] at h
    cases hb : b.get? n with
    | some u =>
      rw [hb] at h
      exact .inl ⟨n, hb.trans (congrArg some h)⟩
    | none =>
      rw [hb, Option.getD_none] at h
      obtain rfl := h
      have hn : n = name := by simpa using hleaf
      exact .inr (hn ▸ hb)
  | array element dimensions =>
    have harray : leaf.isArray = true := by rw [← h, subst, isArray_arrayOver]
    obtain rfl | rfl := hleaf <;> cases harray
  | wildcard bound isUpper => cases bound <;> obtain rfl | rfl := hleaf <;> cases h
  | _ => obtain rfl | rfl := hleaf <;> cases h

/-- **Where names are replaced, a name is mentioned** by a type that replaces one, or it is not replaced. -/
theorem mentions_subst (h : (t.subst b).Mentions name) :
    (∃ n u, b.get? n = some u ∧ u.Mentions name) ∨ b.get? name = none := by
  obtain h | h := h
  all_goals
    obtain ⟨n, u, hu, hwithin⟩ | ⟨p, -, hp⟩ := within_subst h
  · exact .inl ⟨n, u, hu, .inl hwithin⟩
  · exact (mentions_of_subst_eq (.inl rfl) hp).imp_left fun ⟨n, hn⟩ => ⟨n, _, hn, .inl (.self _)⟩
  · exact .inl ⟨n, u, hu, .inr hwithin⟩
  · exact (mentions_of_subst_eq (.inr rfl) hp).imp_left fun ⟨n, hn⟩ => ⟨n, _, hn, .inr (.self _)⟩

/-- Words hold no other names. -/
theorem mentions_of_mentions_wrapped (h : t.wrapped.Mentions name) : t.Mentions name := by
  refine h.imp (fun h => ?_) fun h => ?_
  all_goals
    obtain ⟨p, hp, heq⟩ := within_wrapped h
    cases p with
    | raw | id =>
      rw [wrapped] at heq
      exact heq ▸ hp
    | wildcard bound isUpper => cases bound <;> cases heq
    | _ => cases heq

end TypeRef

/-! ### Bindings of all type parameters -/

/-- The bindings bind each of the names to the argument at its place, to `java.lang.Object` where there is
no argument, and nothing else. -/
structure Bindings.Fills (b : Bindings) (names : List String) (args : List TypeRef) : Prop where
  get?_eq : ∀ (i : Nat) (name : String), names[i]? = some name →
    b.get? name = some (args[i]?.getD (.id TypeRef.objectName))
  get?_eq_none : ∀ name, name ∉ names → b.get? name = none

/-- A type in which type parameters are replaced by arguments that mention none of them mentions none. -/
theorem Bindings.Fills.not_mentions {b : Bindings} {names : List String} {args : List TypeRef}
    (h : b.Fills names args) (hobject : TypeRef.objectName ∉ names)
    (hargs : ∀ a ∈ args, ∀ name ∈ names, ¬a.Mentions name) (t : TypeRef) {name : String}
    (hname : name ∈ names) : ¬(t.apply b).Mentions name := by
  intro hmentions
  obtain ⟨i, hi⟩ := List.mem_iff_getElem?.1 hname
  have hsubst : (t.subst b).Mentions name := TypeRef.mentions_of_mentions_wrapped hmentions
  obtain ⟨n, u, hu, hmentions⟩ | hnone := TypeRef.mentions_subst hsubst
  · have hn : n ∈ names := by
      by_contra hn
      rw [h.get?_eq_none n hn] at hu
      cases hu
    obtain ⟨j, hj⟩ := List.mem_iff_getElem?.1 hn
    obtain rfl := Option.some.inj ((h.get?_eq j n hj).symm.trans hu)
    cases ha : args[j]? with
    | some a =>
      rw [ha] at hmentions
      exact hargs a (List.mem_of_getElem? ha) name hname hmentions
    | none =>
      rw [ha] at hmentions
      exact hobject (TypeRef.mentions_id_iff.1 hmentions ▸ hname)
  · rw [h.get?_eq i name hi] at hnone
    cases hnone

namespace ClassCandidate

/-- The bindings with the unbound parameters erased bind a name as before, and a parameter that was not
bound to its first bound. -/
theorem get?_eraseUnbound (parameters : List TypeParameter) (s : Bindings) (name : String) :
    (eraseUnbound parameters s).get? name =
      (s.get? name).or ((parameters.find? (·.name == name)).map fun p =>
        .id (p.bounds.head?.getD TypeRef.objectName)) := by
  induction parameters generalizing s with
  | nil => simp [eraseUnbound]
  | cons p ps ih =>
    rw [eraseUnbound, ih, List.find?_cons]
    by_cases hp : p.name = name
    · obtain rfl := hp
      cases hs : s.get? p.name with
      | some t => simp [hs]
      | none => simp
    · rw [beq_false_of_ne hp]
      split
      · rfl
      · rw [Bindings.get?_insert, if_neg (Ne.symm hp)]

/-- A property of class types and of all that is bound is kept when the unbound parameters are erased. -/
theorem each_eraseUnbound {P : TypeRef → Prop} {s : Bindings} (h : s.Each P)
    (hid : ∀ name, P (.id name)) (parameters : List TypeParameter) :
    (eraseUnbound parameters s).Each P := by
  intro name t ht
  rw [get?_eraseUnbound, Option.or_eq_some_iff] at ht
  obtain ht | ⟨-, ht⟩ := ht
  · exact h name t ht
  · obtain ⟨p, -, rfl⟩ := Option.map_eq_some_iff.1 ht
    exact hid _

/-- Type parameters without bounds are bound to the arguments at their places, and else to
`java.lang.Object`. -/
theorem fills_eraseUnbound {parameters : List TypeParameter}
    (hn : (parameters.map (·.name)).Nodup) (hbounds : ∀ p ∈ parameters, p.bounds = [])
    (args : List TypeRef) :
    (eraseUnbound parameters (.ofParameters (parameters.map (·.name)) args)).Fills
      (parameters.map (·.name)) args where
  get?_eq i name hi := by
    have hmem : ∃ p ∈ parameters, p.name = name := List.mem_map.1 (List.mem_of_getElem? hi)
    obtain ⟨p, hp⟩ : ∃ p, parameters.find? (·.name == name) = some p := by
      rw [← Option.isSome_iff_exists, List.find?_isSome]
      simpa using hmem
    rw [get?_eraseUnbound, Bindings.ofParameters_of_nodup hn, hp, Option.map_some,
      hbounds p (List.mem_of_find?_eq_some hp), Bindings.get?, Bindings.lookup_zip hn hi]
    cases args[i]? <;> rfl
  get?_eq_none name hname := by
    have hfind : parameters.find? (·.name == name) = none := by
      rw [List.find?_eq_none]
      exact fun p hp he => hname (List.mem_map.2 ⟨p, hp, eq_of_beq he⟩)
    have hlookup : ((parameters.map (·.name)).zip args).lookup name = none := by
      rw [List.lookup_eq_none_iff]
      intro e he
      refine bne_iff_ne.2 fun heq => hname ?_
      rw [heq]
      exact (List.of_mem_zip he).1
    rw [get?_eraseUnbound, Bindings.ofParameters_of_nodup hn, hfind, Bindings.get?, hlookup]
    rfl

end ClassCandidate

/-! ### Constructors -/

/-- What constructors of a class are reported as. -/
theorem TypeSystem.exists_of_mem_constructorsOf {ts : TypeSystem} {c : ClassCandidate}
    {types : Option (List TypeRef)} {r : ResolveResult} (h : r ∈ ts.constructorsOf c types) :
    ∃ applicability constructor, r = c.result applicability constructor ∧
      ∀ k, constructor = some k → k ∈ ts.constructorCandidates c := by
  unfold constructorsOf at h
  cases hks : ts.constructorCandidates c with
  | nil =>
    rw [hks] at h
    cases types with
    | none =>
      obtain rfl := List.mem_singleton.1 h
      exact ⟨_, none, rfl, nofun⟩
    | some args =>
      change r ∈ ts.defaultConstructor c (some args) at h
      obtain hone | hnone := ts.defaultConstructor_cases c args
      · rw [hone] at h
        obtain rfl := List.mem_singleton.1 h
        exact ⟨_, none, rfl, nofun⟩
      · rw [hnone] at h
        cases h
  | cons k ks =>
    rw [hks] at h
    cases types with
    | none =>
      obtain ⟨k', hk', rfl⟩ := List.mem_map.1 h
      exact ⟨_, some k', rfl, fun _ he => Option.some.inj he ▸ hk'⟩
    | some args =>
      obtain ⟨k', hk', rfl⟩ := List.mem_map.1 h
      have hmem := (Applicability.select_sublist ts _ (k :: ks) args).subset hk'
      exact ⟨_, some k', rfl, fun _ he => Option.some.inj he ▸ hmem⟩

namespace ClassIndex

/-- Indexed classes have type parameters without bounds. -/
theorem bounds_of_typeInfo? {ds : List ClassDecl} {index : ClassIndex} (h : ofDecls ds = .ok index)
    {fqn : String} {info : TypeInfo} (hinfo : index.typeInfo? fqn = some info) {p : TypeParameter}
    (hp : p ∈ info.typeParameters) : p.bounds = [] := by
  unfold typeInfo? at hinfo
  split at hinfo
  · rename_i indexed hfind
    obtain rfl := Option.some.inj hinfo
    obtain ⟨d, -, hd⟩ := exists_of_mem_mapM (ofDecls_eq_ok.1 h).2 (List.mem_of_find?_eq_some hfind)
    obtain ⟨members, -, rfl⟩ := complete_eq_ok.1 hd
    obtain ⟨name, -, rfl⟩ := List.mem_map.1 hp
    rfl
  · obtain ⟨entry, -, rfl⟩ := Option.map_eq_some_iff.1 hinfo
    cases hp

/-- **No type parameter of a class is mentioned by the parameters that its constructors declare**, once the
type parameters are replaced: by the type arguments that are written, be they too few or too many, and by
`java.lang.Object`.  That is so of a candidate for each constructor.  The results tell the type arguments
that are written, and nothing of what is filled in. -/
theorem constructors_mention_no_parameter {ds : List ClassDecl} {index : ClassIndex}
    (h : ofDecls ds = .ok index) {fqn : String} {args : List TypeRef} {c : ClassCandidate}
    (hc : index.typeSystem.classCandidate? args fqn = some c) (hn : c.info.parameterNames.Nodup)
    (hobject : TypeRef.objectName ∉ c.info.parameterNames)
    (hargs : ∀ a ∈ args, ∀ name ∈ c.info.parameterNames, ¬a.Mentions name) :
    (index.typeSystem.constructorCandidates c).map (·.member) = index.constructors fqn ∧
      (∀ k ∈ index.typeSystem.constructorCandidates c,
        (∀ p ∈ k.declared, ∀ name ∈ c.info.parameterNames, ¬p.type.Mentions name) ∧
          ∃ b : Bindings, b.Fills c.info.parameterNames args ∧
            k.declared = (k.member.parameters.getD []).map (·.subst b)) ∧
      ∀ types, ∀ r ∈ index.typeSystem.constructorsOf c types,
        r.substitution = ⟨c.info.parameterNames.zip args⟩ ∧
          ∀ k, r.constructor = some k → k ∈ index.typeSystem.constructorCandidates c := by
  obtain ⟨info, hinfo, rfl⟩ := Option.map_eq_some_iff.1 hc
  refine ⟨?_, ?_, ?_⟩
  · obtain rfl := fqn_of_typeInfo?_eq_some hinfo
    exact List.map_map.trans (List.map_id _)
  · intro k hk
    obtain ⟨member, -, rfl⟩ := List.mem_map.1 hk
    have hfills : (ClassCandidate.erasure ⟨info, .ofParameters info.parameterNames args⟩).Fills
        info.parameterNames args :=
      ClassCandidate.fills_eraseUnbound hn (fun p hp => bounds_of_typeInfo? h hinfo hp) args
    refine ⟨fun p hp name hname => ?_, _, hfills, rfl⟩
    obtain ⟨q, -, rfl⟩ := List.mem_map.1 hp
    exact hfills.not_mentions hobject hargs q.type hname
  · intro types r hr
    obtain ⟨applicability, constructor, rfl, hmem⟩ := TypeSystem.exists_of_mem_constructorsOf hr
    exact ⟨Bindings.ofParameters_of_nodup hn args, hmem⟩

/-- `class Pair<A, B>` with the constructor `Pair(A first, Map<B, ? extends A[]> index, B... rest)`. -/
def pair : List ClassDecl :=
  [{ fqn := "p.Pair"
     typeParameters := ["A", "B"]
     constructors :=
      [{ parameters :=
          [{ name := "first", type := "A" }, { name := "index", type := "Map<B, ? extends A[]>" },
            { name := "rest", type := "B", varargs := true }] }] }]

/-- `Pair<String[]>`, with one type argument too few. -/
def pairOfStrings : ClassCandidate where
  info := { fqn := "p.Pair", typeParameters := [{ name := "A" }, { name := "B" }] }
  substitution := ⟨[("A", .array (.id TypeRef.stringName) 1)]⟩

/-- The parameters of `Pair<String[]>` mention neither `A` nor `B`; its results bind `A` alone. -/
theorem constructors_mention_no_parameter_pair : ∃ index, ofDecls pair = .ok index ∧
    index.typeSystem.classCandidate? [.array (.id TypeRef.stringName) 1] "p.Pair" = some pairOfStrings ∧
    (index.typeSystem.constructorCandidates pairOfStrings).map ConstructorCandidate.signature =
      ["Pair(java.lang.String[] first, " ++
        "java.util.Map<java.lang.Object, ? extends java.lang.String[][]> index, " ++
        "java.lang.Object... rest)"] ∧
    (∀ k ∈ index.typeSystem.constructorCandidates pairOfStrings, ∀ p ∈ k.declared,
      ¬p.type.Mentions "A" ∧ ¬p.type.Mentions "B") ∧
    ∀ types, ∀ r ∈ index.typeSystem.constructorsOf pairOfStrings types,
      r.substitution = ⟨[("A", .array (.id TypeRef.stringName) 1)]⟩ := by
  have hindexed : (ofDecls pair).toOption.map (fun index =>
      (index.typeSystem.classCandidate? [.array (.id TypeRef.stringName) 1] "p.Pair",
        (index.typeSystem.constructorCandidates pairOfStrings).map ConstructorCandidate.signature)) =
      some (some pairOfStrings, ["Pair(java.lang.String[] first, " ++
        "java.util.Map<java.lang.Object, ? extends java.lang.String[][]> index, " ++
        "java.lang.Object... rest)"]) := by decide +kernel
  have hnames : ∀ a ∈ [TypeRef.array (.id TypeRef.stringName) 1],
      ∀ name ∈ pairOfStrings.info.parameterNames, ¬a.Mentions name := by
    intro a ha name hname
    obtain rfl := List.mem_singleton.1 ha
    rintro (hraw | hid)
    · cases hraw with
      | element hraw => cases hraw
    · cases hid with
      | element hid =>
        cases hid
        revert hname
        decide
  cases h : ofDecls pair with
  | error e =>
    rw [h] at hindexed
    cases hindexed
  | ok index =>
    rw [h] at hindexed
    obtain ⟨hc, htexts⟩ := Prod.mk.inj (Option.some.inj hindexed)
    obtain ⟨-, hdeclared, hresults⟩ :=
      constructors_mention_no_parameter h hc (by decide) (by decide) hnames
    refine ⟨index, rfl, hc, htexts, fun k hk p hp => ?_, fun types r hr => (hresults types r hr).1⟩
    exact ⟨(hdeclared k hk).1 p hp "A" (by decide), (hdeclared k hk).1 p hp "B" (by decide)⟩

end ClassIndex
end GroovyNew
