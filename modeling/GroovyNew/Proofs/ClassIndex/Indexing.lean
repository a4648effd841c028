/-
# What indexing accepts and what it yields

Indexing goes over the declarations twice.  First it enters the classes and refuses a name that is entered
already, then it completes each class with its constructors, over the index of all the entries.
`ClassIndex.ofDecls_eq_ok` says the same without the two passes: the names are distinct, and each class is
its declaration completed over `ClassIndex.entries`.

So classes can be indexed if their names are distinct and every constructor parameter has the text of a type
(`ClassIndex.exists_ofDecls_eq_ok`), and the index has the declared names in their order
(`ClassIndex.names_of_ofDecls`).
-/

import GroovyNew.ClassIndex.Build
import Mathlib.Data.List.Perm.Basic

namespace GroovyNew

/-! ### Traversals that can fail -/

section Traversal

variable {α β ε : Type} {f : α → Except ε β} {items : List α} {results : List β}

/-- **A traversal yields what it yields at each item.** -/
theorem mapM_eq_ok : items.mapM f = .ok results ↔ items.map f = results.map .ok := by
  induction items generalizing results with
  | nil => cases results <;> simp [pure, Except.pure]
  | cons a items ih =>
    rw [List.mapM_cons, List.map_cons]
    cases f a with
    | error e => cases results <;> simp [bind, Except.bind]
    | ok b =>
      cases results with
      | nil => cases items.mapM f <;> simp [bind, Except.bind, pure, Except.pure]
      | cons r results =>
        rw [List.map_cons, List.cons.injEq, ← ih]
        cases items.mapM f <;> simp [bind, Except.bind, pure, Except.pure]

/-- What a traversal yields comes from one of its items. -/
theorem exists_of_mem_mapM (h : items.mapM f = .ok results) {b : β} (hb : b ∈ results) :
    ∃ a ∈ items, f a = .ok b := by
  have hmem : Except.ok b ∈ items.map f := mapM_eq_ok.1 h ▸ List.mem_map_of_mem hb
  exact List.mem_map.1 hmem

/-- A traversal succeeds exactly if it does at every item. -/
theorem exists_mapM_eq_ok :
    (∃ results, items.mapM f = .ok results) ↔ ∀ a ∈ items, ∃ b, f a = .ok b := by
  constructor
  · rintro ⟨results, h⟩ a ha
    have hmem : f a ∈ results.map Except.ok := mapM_eq_ok.1 h ▸ List.mem_map_of_mem ha
    obtain ⟨b, -, hb⟩ := List.mem_map.1 hmem
    exact ⟨b, hb.symm⟩
  · intro h
    induction items with
    | nil => exact ⟨[], rfl⟩
    | cons a items ih =>
      obtain ⟨⟨b, hb⟩, hitems⟩ := List.forall_mem_cons.1 h
      obtain ⟨results, hresults⟩ := ih hitems
      refine ⟨b :: results, mapM_eq_ok.2 ?_⟩
      rw [List.map_cons, List.map_cons, hb, mapM_eq_ok.1 hresults]

/-- What holds of an item and what it yields holds of the lists. -/
theorem map_of_mapM {γ : Type} {g : β → γ} {k : α → γ} (h : items.mapM f = .ok results)
    (hg : ∀ a b, f a = .ok b → g b = k a) : results.map g = items.map k := by
  replace h := mapM_eq_ok.1 h
  induction items generalizing results with
  | nil => cases results with
    | nil => rfl
    | cons b results => cases h
  | cons a items ih => cases results with
    | nil => cases h
    | cons b results =>
      rw [List.map_cons, List.map_cons, List.cons.injEq] at h
      rw [List.map_cons, List.map_cons, hg a b h.1, ih h.2]

/-- Over the same items in another order, a traversal yields the same results in another order. -/
theorem perm_of_mapM {items' : List α} (hp : items.Perm items') {results' : List β}
    (h : items.mapM f = .ok results) (h' : items'.mapM f = .ok results') :
    results.Perm results' := by
  have hmap : (results.map (Except.ok (ε := ε))).Perm (results'.map Except.ok) := by
    rw [← mapM_eq_ok.1 h, ← mapM_eq_ok.1 h']
    exact hp.map f
  exact (List.map_perm_map_iff fun _ _ => Except.ok.inj).1 hmap

end Traversal

/-- The type of every constructor parameter is the text of a type. -/
def ClassDecl.HasTypeTexts (d : ClassDecl) : Prop :=
  ∀ c ∈ d.constructors, ∀ p ∈ c.parameters, ∃ t, TypeRef.ofText p.type = .ok t

namespace ClassIndex

/-! ### Entering the classes -/

theorem declares_iff {index : ClassIndex} {fqn : String} :
    index.declares fqn = true ↔ fqn ∈ index.names := by
  simp [declares, find?, names, List.find?_isSome]

/-- The index of the declared classes without their constructors. -/
def entries (ds : List ClassDecl) : ClassIndex := ⟨ds.map entryOf⟩

@[simp] theorem names_entries (ds : List ClassDecl) : (entries ds).names = ds.map ClassDecl.fqn := by
  rw [entries, names, List.map_map]
  rfl

/-- Classes can be entered if their names are distinct and none is entered already, and they are entered in
their order. -/
theorem enter_eq_ok {index entered : ClassIndex} {ds : List ClassDecl} :
    index.enter ds = .ok entered ↔
      ((ds.map ClassDecl.fqn).Nodup ∧ ∀ d ∈ ds, d.fqn ∉ index.names) ∧
        ⟨index.classes ++ ds.map entryOf⟩ = entered := by
  induction ds generalizing index with
  | nil => simp [enter]
  | cons d ds ih =>
    rw [enter, List.forall_mem_cons, List.map_cons, List.nodup_cons]
    by_cases hd : index.declares d.fqn = true
    · have hmem : d.fqn ∈ index.names := declares_iff.1 hd
      simp [hd, hmem]
    · have hmem : d.fqn ∉ index.names := fun h => hd (declares_iff.2 h)
      have hnames : (⟨index.classes ++ [entryOf d]⟩ : ClassIndex).names = index.names ++ [d.fqn] := by
        simp [names, entryOf, ClassDecl.info]
      rw [if_neg hd, ih, hnames, List.append_assoc]
      refine and_congr_left fun _ => ?_
      simp only [List.mem_append, List.mem_singleton, not_or, List.mem_map, not_exists, not_and]
      constructor
      · rintro ⟨hn, hds⟩
        exact ⟨⟨fun x hx => (hds x hx).2, hn⟩, hmem, fun x hx => (hds x hx).1⟩
      · rintro ⟨⟨hd', hn⟩, -, hds⟩
        exact ⟨hn, fun x hx => ⟨hds x hx, hd' x hx⟩⟩

/-! ### Completing them -/

theorem exists_parameter_eq_ok {index : ClassIndex} {scope : Scope} {p : ParameterDecl} :
    (∃ q, index.parameter scope p = .ok q) ↔ ∃ t, TypeRef.ofText p.type = .ok t := by
  unfold parameter
  cases TypeRef.ofText p.type with
  | error e => simp
  | ok t => simp

/-- A parameter has the type of its text with the names resolved, or the array of that for a variable
number of arguments. -/
theorem type_of_parameter {index : ClassIndex} {scope : Scope} {p : ParameterDecl} {q : ParameterInfo}
    (h : index.parameter scope p = .ok q) :
    ∃ t, TypeRef.ofText p.type = .ok t ∧ q.isVarargs = p.varargs ∧
      q.type = if p.varargs then (t.normalize (index.typeName? scope) scope.typeParameters).arrayOf.wrapped
        else t.normalize (index.typeName? scope) scope.typeParameters := by
  unfold parameter at h
  split at h
  · cases h
  · rename_i t ht
    obtain rfl := Except.ok.inj h
    refine ⟨t, ht, ?_⟩
    cases hv : p.varargs <;> exact ⟨rfl, rfl⟩

theorem exists_constructor_eq_ok {index : ClassIndex} {d : ClassDecl} {c : ConstructorDecl} :
    (∃ member, index.constructor d c = .ok member) ↔
      ∀ p ∈ c.parameters, ∃ t, TypeRef.ofText p.type = .ok t := by
  have hparameters : (∃ ps, c.parameters.mapM (index.parameter (index.scopeOf d)) = .ok ps) ↔
      ∀ p ∈ c.parameters, ∃ t, TypeRef.ofText p.type = .ok t := by
    simp only [exists_mapM_eq_ok, exists_parameter_eq_ok]
  rw [← hparameters]
  unfold constructor
  cases c.parameters.mapM (index.parameter (index.scopeOf d)) with
  | error e => simp
  | ok parameters => simp

/-- The parameters of a constructor are those that its declaration describes, each read in the scope of the
class. -/
theorem mapM_parameter_of_constructor_eq_ok {index : ClassIndex} {d : ClassDecl} {c : ConstructorDecl}
    {member : MemberInfo} (h : index.constructor d c = .ok member) :
    c.parameters.mapM (index.parameter (index.scopeOf d)) = .ok (member.parameters.getD []) := by
  unfold constructor at h
  split at h
  · cases h
  · rename_i parameters hparameters
    obtain rfl := Except.ok.inj h
    exact hparameters

theorem complete_eq_ok {index : ClassIndex} {d : ClassDecl} {indexed : IndexedClass} :
    index.complete d = .ok indexed ↔
      ∃ members, d.constructors.mapM (index.constructor d) = .ok members ∧
        { entryOf d with constructors := members } = indexed := by
  unfold complete
  cases d.constructors.mapM (index.constructor d) with
  | error e => simp
  | ok members => simp

theorem exists_complete_eq_ok {index : ClassIndex} {d : ClassDecl} :
    (∃ indexed, index.complete d = .ok indexed) ↔ d.HasTypeTexts := by
  have hconstructors : (∃ cs, d.constructors.mapM (index.constructor d) = .ok cs) ↔
      d.HasTypeTexts := by
    simp only [exists_mapM_eq_ok, exists_constructor_eq_ok, ClassDecl.HasTypeTexts]
  rw [← hconstructors]
  simp [complete_eq_ok]

/-! ### Both passes -/

/-- **The index holds the declarations, each completed over the entries of all**, if their names are
distinct. -/
theorem ofDecls_eq_ok {ds : List ClassDecl} {index : ClassIndex} :
    ofDecls ds = .ok index ↔
      (ds.map ClassDecl.fqn).Nodup ∧ ds.mapM (entries ds).complete = .ok index.classes := by
  have henter : ∀ entered, ({} : ClassIndex).enter ds = .ok entered ↔
      (ds.map ClassDecl.fqn).Nodup ∧ entries ds = entered := fun entered => by
    rw [enter_eq_ok]
    exact and_congr_left fun _ => and_iff_left fun _ _ => List.not_mem_nil
  unfold ofDecls
  cases hentered : ({} : ClassIndex).enter ds with
  | error e =>
    have hnodup : ¬(ds.map ClassDecl.fqn).Nodup := fun hn => by
      rw [(henter (entries ds)).2 ⟨hn, rfl⟩] at hentered
      cases hentered
    simp [hnodup]
  | ok entered =>
    obtain ⟨hn, rfl⟩ := (henter entered).1 hentered
    simp only [and_iff_right hn]
    cases ds.mapM (entries ds).complete with
    | error e => simp
    | ok classes =>
      obtain ⟨held⟩ := index
      simp

/-- Declarations can be indexed if their names are distinct and their parameters have types. -/
theorem exists_ofDecls_eq_ok {ds : List ClassDecl} :
    (∃ index, ofDecls ds = .ok index) ↔
      (ds.map ClassDecl.fqn).Nodup ∧ ∀ d ∈ ds, d.HasTypeTexts := by
  have hcomplete : (∃ classes, ds.mapM (entries ds).complete = .ok classes) ↔
      ∀ d ∈ ds, d.HasTypeTexts := by
    simp only [exists_mapM_eq_ok, exists_complete_eq_ok]
  rw [← hcomplete, ← exists_and_left]
  simp only [ofDecls_eq_ok]
  exact ⟨fun ⟨index, h⟩ => ⟨index.classes, h⟩, fun ⟨classes, h⟩ => ⟨⟨classes⟩, h⟩⟩

/-- The index has the declared names, in their order. -/
theorem names_of_ofDecls {ds : List ClassDecl} {index : ClassIndex} (h : ofDecls ds = .ok index) :
    index.names = ds.map ClassDecl.fqn := by
  refine map_of_mapM (ofDecls_eq_ok.1 h).2 fun d indexed hd => ?_
  obtain ⟨members, -, rfl⟩ := complete_eq_ok.1 hd
  rfl

/-- Every parameter of a constructor in the index is one that a declaration describes. -/
theorem exists_parameter_of_ofDecls {ds : List ClassDecl} {index : ClassIndex}
    (h : ofDecls ds = .ok index) {fqn : String} {member : MemberInfo}
    (hm : member ∈ index.constructors fqn) {q : ParameterInfo} (hq : q ∈ member.parameters.getD []) :
    ∃ d ∈ ds, ∃ c ∈ d.constructors, ∃ p ∈ c.parameters,
      (entries ds).parameter ((entries ds).scopeOf d) p = .ok q := by
  unfold constructors at hm
  split at hm
  · rename_i indexed hfind
    have hindexed : indexed ∈ index.classes := List.mem_of_find?_eq_some hfind
    obtain ⟨d, hd, hcomplete⟩ := exists_of_mem_mapM (ofDecls_eq_ok.1 h).2 hindexed
    obtain ⟨members, hmembers, rfl⟩ := complete_eq_ok.1 hcomplete
    obtain ⟨c, hc, hmember⟩ := exists_of_mem_mapM hmembers hm
    obtain ⟨p, hp, hparameter⟩ := exists_of_mem_mapM (mapM_parameter_of_constructor_eq_ok hmember) hq
    exact ⟨d, hd, c, hc, p, hp, hparameter⟩
  · cases hm

end ClassIndex
end GroovyNew
