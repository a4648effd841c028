/-
# The shape of what a name denotes

Each stage of a name's search makes its candidates in its own way.  It takes a name that is written
somewhere, or puts the simple name behind a package or a class.  All of them end in the name that is
searched (`Name.EndsIn`), and so do the candidates of a dotted name, whose first segment is searched and
the others put behind it.  No candidate is found twice, because only the on-demand imports find several,
and they count a class once.  For the same reason an import that is repeated changes nothing
(`ClassIndex.candidates_repeat`).

A reference denotes the classes among the candidates of its name, or a package, or nothing.  The names of
these classes are distinct, so a reference is ambiguous only between different classes.
`ClassIndex.candidates_shape` has all of this.
-/

import GroovyNew.Proofs.ClassIndex.Shadowing
import GroovyNew.Proofs.Constructors.Views
import GroovyNew.Proofs.Inference.ConstructedClass
import Mathlib.Data.List.Nodup

namespace GroovyNew

/-! ### Names that end in a name -/

namespace Name

variable {fqn name head rest : String}

/-- A name is another one, or the member of that name of a package or class. -/
def EndsIn (fqn name : String) : Prop := fqn = name ∨ ∃ outer, fqn = qualify outer name

theorem endsIn_qualify (outer name : String) : EndsIn (qualify outer name) name := .inr ⟨outer, rfl⟩

theorem endsIn_of_isMemberNamed (h : isMemberNamed fqn name = true) : EndsIn fqn name := by
  obtain ⟨cs, hcs⟩ := isMemberNamed_iff.1 h
  refine .inr ⟨String.ofList cs, String.toList_injective ?_⟩
  rw [← hcs]
  simp [qualify]

theorem endsIn_lastSegment (fqn : String) : EndsIn fqn (lastSegment fqn) := by
  cases hpackage : package? fqn with
  | some outer => exact .inr ⟨outer, eq_qualify_of_package? hpackage⟩
  | none =>
    have hdot : ∀ c ∈ fqn.toList.reverse, (c != '.') = true := by
      intro c hc
      rw [bne_iff_ne]
      rintro rfl
      rw [package?, if_pos (List.contains_iff_mem.2 (List.mem_reverse.1 hc))] at hpackage
      cases hpackage
    refine .inl (String.toList_injective ?_)
    rw [lastSegment, List.takeWhile_eq_self_iff.2 hdot, List.reverse_reverse, String.toList_ofList]

theorem EndsIn.qualify (h : EndsIn fqn head) (rest : String) :
    EndsIn (qualify fqn rest) (qualify head rest) := by
  obtain rfl | ⟨outer, rfl⟩ := h
  · exact .inl rfl
  · exact .inr ⟨outer, by simp only [Name.qualify, String.append_assoc]⟩

theorem eq_qualify_of_splitFirst? (h : splitFirst? name = some (head, rest)) :
    name = qualify head rest := by
  unfold splitFirst? at h
  split at h
  · rename_i hdot
    obtain ⟨rfl, rfl⟩ := Prod.mk.inj (Option.some.inj h)
    obtain ⟨cs, hcs⟩ := exists_dropWhile_eq (List.contains_iff_mem.1 hdot)
    have hsplit : name.toList.takeWhile (· != '.') ++ '.' :: cs = name.toList := by
      rw [← hcs, List.takeWhile_append_dropWhile]
    refine String.toList_injective ?_
    rw [hcs]
    simpa [qualify] using hsplit.symm
  · cases h

theorem qualify_left_injective (rest : String) : Function.Injective (qualify · rest) := by
  intro a b hab
  simp only [qualify, String.append_assoc] at hab
  exact (String.append_left_inj _).1 hab

end Name

namespace ClassIndex

variable {index : ClassIndex} {scope : Scope} {name fqn : String}

/-! ### Candidates end in the name -/

theorem endsIn_of_memberInChain? {chain : List String}
    (h : index.memberInChain? name chain = some fqn) : Name.EndsIn fqn name := by
  induction chain with
  | nil => cases h
  | cons c chain ih =>
    rw [memberInChain?] at h
    split at h
    · rename_i hlast
      obtain rfl := Option.some.inj h
      rw [← hlast]
      exact Name.endsIn_lastSegment c
    split at h
    · obtain rfl := Option.some.inj h
      exact Name.endsIn_qualify c name
    · exact ih h

theorem endsIn_of_memberType? (h : index.memberType? scope name = some fqn) : Name.EndsIn fqn name := by
  unfold memberType? at h
  split at h
  · exact endsIn_of_memberInChain? h
  · cases h

theorem endsIn_of_packageMember? (h : index.packageMember? scope name = some fqn) :
    Name.EndsIn fqn name := by
  unfold packageMember? at h
  split at h
  · rename_i p _
    split at h
    · obtain rfl := Option.some.inj h
      exact Name.endsIn_qualify p name
    · cases h
  · cases h

theorem endsIn_of_mem_onDemandClasses {imports : List String}
    (h : fqn ∈ index.onDemandClasses name imports) : Name.EndsIn fqn name := by
  obtain ⟨p, -, rfl⟩ := List.mem_map.1 (List.mem_filter.1 h).1
  exact Name.endsIn_qualify p name

theorem endsIn_of_defaultImport? (h : index.defaultImport? name = some fqn) : Name.EndsIn fqn name := by
  unfold defaultImport? at h
  split at h
  · rename_i c hfind
    obtain rfl := Option.some.inj h
    have hlast := List.find?_some hfind
    rw [← eq_of_beq hlast]
    exact Name.endsIn_lastSegment c
  · obtain ⟨p, -, rfl⟩ := List.mem_map.1 (List.mem_of_find?_eq_some h)
    exact Name.endsIn_qualify p name

theorem endsIn_of_mem_simpleCandidates (h : fqn ∈ index.simpleCandidates scope name) :
    Name.EndsIn fqn name := by
  obtain hcandidates | ⟨found, hcandidates, hfound⟩ := index.simpleCandidates_cases scope name
  · rw [hcandidates, onDemandImports_eq_append, List.nil_append, mem_unseen] at h
    exact endsIn_of_mem_onDemandClasses h.1
  · rw [hcandidates, Option.mem_toList] at h
    obtain hfirst | hmember | hsingle | hpackage | hdefault | hname := hfound fqn h
    · exact Name.endsIn_of_isMemberNamed (by simpa using List.find?_some hfirst)
    · exact endsIn_of_memberType? hmember
    · exact Name.endsIn_of_isMemberNamed (by simpa using List.find?_some hsingle)
    · exact endsIn_of_packageMember? hpackage
    · exact endsIn_of_defaultImport? hdefault
    · exact .inl hname

theorem endsIn_of_mem_candidates (h : fqn ∈ index.candidates scope name) : Name.EndsIn fqn name := by
  unfold candidates at h
  split at h
  · exact endsIn_of_mem_simpleCandidates h
  · rename_i head rest hsplit
    split at h
    · exact .inl (List.mem_singleton.1 h)
    · obtain ⟨outer, houter, rfl⟩ := List.mem_map.1 (List.mem_filter.1 h).1
      rw [Name.eq_qualify_of_splitFirst? hsplit]
      exact (endsIn_of_mem_simpleCandidates houter).qualify rest

/-! ### Candidates are distinct -/

theorem nodup_simpleCandidates (index : ClassIndex) (scope : Scope) (name : String) :
    (index.simpleCandidates scope name).Nodup := by
  obtain hcandidates | ⟨found, hcandidates, -⟩ := index.simpleCandidates_cases scope name
  · rw [hcandidates, onDemandImports_eq_append, List.nil_append]
    exact nodup_unseen _ _
  · rw [hcandidates]
    cases found with
    | none => exact .nil
    | some fqn => exact List.nodup_singleton fqn

theorem nodup_candidates (index : ClassIndex) (scope : Scope) (name : String) :
    (index.candidates scope name).Nodup := by
  unfold candidates
  split
  · exact index.nodup_simpleCandidates scope name
  · rename_i head rest _
    split
    · exact List.nodup_singleton _
    · exact ((index.nodup_simpleCandidates scope head).map (Name.qualify_left_injective rest)).filter _

/-! ### A repeated import -/

/-- What has been seen among the names before is not found again. -/
theorem unseen_append_of_subset {seen ps qs : List String} (h : qs ⊆ ps) (rs : List String) :
    unseen seen (ps ++ (qs ++ rs)) = unseen seen (ps ++ rs) := by
  have hnone : unseen (ps ++ seen) qs = [] := by
    rw [List.eq_nil_iff_forall_not_mem]
    intro n hn
    rw [mem_unseen] at hn
    exact hn.2 (List.mem_append_left seen (h hn.1))
  have hseen : ∀ n, n ∈ qs ++ (ps ++ seen) ↔ n ∈ ps ++ seen := by
    intro n
    rw [List.mem_append]
    exact or_iff_right_of_imp fun hn => List.mem_append_left seen (h hn)
  rw [unseen_append, unseen_append, unseen_append, hnone, List.nil_append, unseen_congr hseen]

variable {i : String} {before after : List String}

theorem onDemandImports_repeat (index : ClassIndex) (name : String) (h : i ∈ before) :
    index.onDemandImports name (before ++ i :: after) [] =
      index.onDemandImports name (before ++ after) [] := by
  have happend : ∀ is js : List String, index.onDemandClasses name (is ++ js) =
      index.onDemandClasses name is ++ index.onDemandClasses name js := fun is js => by
    simp [onDemandClasses]
  have hsubset : index.onDemandClasses name [i] ⊆ index.onDemandClasses name before := by
    have hi : [i] ⊆ before := List.cons_subset.2 ⟨h, List.nil_subset before⟩
    exact List.filter_subset _ (List.map_subset _ (List.filterMap_subset _ hi))
  rw [onDemandImports_eq_append, onDemandImports_eq_append, ← List.singleton_append, happend, happend,
    happend, unseen_append_of_subset hsubset]

theorem singleImport?_repeat (scope : Scope) (name : String) (h : i ∈ before) :
    singleImport? { scope with imports := before ++ i :: after } name =
      singleImport? { scope with imports := before ++ after } name := by
  simp only [singleImport?, List.find?_append]
  cases hbefore : before.find? (Name.isMemberNamed · name) with
  | some fqn => rfl
  | none =>
    have hi : ¬Name.isMemberNamed i name = true := List.find?_eq_none.1 hbefore i h
    simp [hi]

/-- **An import that is repeated changes nothing.** -/
theorem candidates_repeat (index : ClassIndex) (scope : Scope) (name : String) (h : i ∈ before) :
    index.candidates { scope with imports := before ++ i :: after } name =
      index.candidates { scope with imports := before ++ after } name := by
  have hsimple : ∀ name, index.simpleCandidates { scope with imports := before ++ i :: after } name =
      index.simpleCandidates { scope with imports := before ++ after } name := by
    intro name
    simp only [simpleCandidates, singleImport?_repeat scope name h, onDemandImports_repeat index name h]
    rfl
  simp only [candidates, hsimple]

end ClassIndex

/-! ### References -/

/-- Of classes with distinct names, the policy `unique` picks none if there is none or if there are
two. -/
theorem ClassPick.pick?_unique_eq_none_iff {results : List ReferenceResult}
    (h : ((ReferenceResult.candidates results).map (·.fqn)).Nodup) :
    ClassPick.unique.pick? results = none ↔
      ReferenceResult.candidates results = [] ∨
        ∃ c ∈ ReferenceResult.candidates results, ∃ d ∈ ReferenceResult.candidates results,
          c.fqn ≠ d.fqn := by
  cases hclasses : ReferenceResult.candidates results with
  | nil =>
    have hnone : ClassPick.unique.pick? results = none := pick?_unique_eq_none (by simp [hclasses])
    exact ⟨fun _ => .inl rfl, fun _ => hnone⟩
  | cons c cs =>
    cases cs with
    | nil =>
      rw [pick?_unique_eq_some hclasses]
      simp
    | cons d cs =>
      have hnone : ClassPick.unique.pick? results = none := pick?_unique_eq_none (by simp [hclasses])
      have hne : c.fqn ≠ d.fqn := by
        rw [hclasses, List.map_cons, List.map_cons, List.nodup_cons] at h
        exact fun heq => h.1 (heq ▸ List.mem_cons_self)
      refine ⟨fun _ => .inr ⟨c, ?_, d, ?_, hne⟩, fun _ => hnone⟩
      · exact List.mem_cons_self
      · exact List.mem_cons_of_mem c List.mem_cons_self

/-- A reference denotes nothing, or one package, or classes only. -/
theorem TypeSystem.resolveReference_cases (ts : TypeSystem) (ctx : Context) (r : CodeReference) :
    ts.resolveReference ctx r = [] ∨ ts.resolveReference ctx r = [.package r.name] ∨
      ∃ cs, cs ≠ [] ∧ ts.resolveReference ctx r = cs.map .candidate := by
  simp only [resolveReference]
  split
  · split
    · exact .inr (.inl rfl)
    · exact .inl rfl
  · rename_i hclasses
    exact .inr (.inr ⟨_, fun hnil => hclasses (List.isEmpty_iff.2 hnil), rfl⟩)

namespace ClassIndex

theorem nodup_map_fqn_resolveReference (index : ClassIndex) (ctx : Context) (r : CodeReference) :
    ((ReferenceResult.candidates (index.typeSystem.resolveReference ctx r)).map (·.fqn)).Nodup := by
  rw [TypeSystem.candidates_resolveReference, map_fqn_filterMap_classCandidate?]
  exact (index.nodup_candidates ctx.toScope r.name).filter _

/-- **The shape of what a name and a reference denote.**  Each candidate of a name ends in it, the
candidates are distinct, several of them are all known, and an import that is repeated changes nothing.
So a reference denotes nothing, or one package, or classes of distinct names, and the policy `unique`
picks none of them exactly if there is none or if there are two. -/
theorem candidates_shape (index : ClassIndex) :
    (∀ scope name,
      (∀ fqn ∈ index.candidates scope name, Name.EndsIn fqn name) ∧
        (index.candidates scope name).Nodup ∧
        (2 ≤ (index.candidates scope name).length →
          ∀ fqn ∈ index.candidates scope name, index.knows fqn = true) ∧
        ∀ before after, ∀ i ∈ before,
          index.candidates { scope with imports := before ++ i :: after } name =
            index.candidates { scope with imports := before ++ after } name) ∧
      ∀ ctx r,
        (index.typeSystem.resolveReference ctx r = [] ∨
            index.typeSystem.resolveReference ctx r = [.package r.name] ∨
            ∃ cs, cs ≠ [] ∧ index.typeSystem.resolveReference ctx r = cs.map .candidate ∧
              (cs.map (·.fqn)).Nodup) ∧
          (ClassPick.unique.pick? (index.typeSystem.resolveReference ctx r) = none ↔
            ReferenceResult.candidates (index.typeSystem.resolveReference ctx r) = [] ∨
              ∃ c ∈ ReferenceResult.candidates (index.typeSystem.resolveReference ctx r),
                ∃ d ∈ ReferenceResult.candidates (index.typeSystem.resolveReference ctx r),
                  c.fqn ≠ d.fqn) := by
  refine ⟨fun scope name => ⟨fun fqn => endsIn_of_mem_candidates, index.nodup_candidates scope name,
    fun hseveral => ?_, fun before after i hi => index.candidates_repeat scope name hi⟩,
    fun ctx r => ⟨?_, ?_⟩⟩
  · obtain hone | hknown := index.length_candidates_le_one_or_knows scope name
    · omega
    · exact hknown
  · have hnodup := index.nodup_map_fqn_resolveReference ctx r
    obtain hnone | hpackage | ⟨cs, hcs, hclasses⟩ := index.typeSystem.resolveReference_cases ctx r
    · exact .inl hnone
    · exact .inr (.inl hpackage)
    · rw [hclasses, ReferenceResult.candidates_map_candidate] at hnodup
      exact .inr (.inr ⟨cs, hcs, hclasses, hnodup⟩)
  · exact ClassPick.pick?_unique_eq_none_iff (index.nodup_map_fqn_resolveReference ctx r)

/-- Two packages with a class of the same name. -/
def twoBoxes : ClassIndex := entries [{ fqn := "a.Box" }, { fqn := "b.Box" }]

/-- Both packages are imported, one of them twice: two candidates, and none of them is picked. -/
theorem candidates_twoBoxes :
    twoBoxes.candidates { imports := ["a.*", "b.*", "a.*"] } "Box" = ["a.Box", "b.Box"] ∧
      (∀ fqn ∈ ["a.Box", "b.Box"], twoBoxes.knows fqn = true) ∧
      twoBoxes.candidates { imports := ["a.*", "b.*", "a.*"] } "Box" =
        twoBoxes.candidates { imports := ["a.*", "b.*"] } "Box" ∧
      ClassPick.unique.pick? (twoBoxes.typeSystem.resolveReference
        { imports := ["a.*", "b.*", "a.*"] } { name := "Box" }) = none := by
  have hcandidates : twoBoxes.candidates { imports := ["a.*", "b.*", "a.*"] } "Box" =
      ["a.Box", "b.Box"] := by decide +kernel
  obtain ⟨hnames, hreferences⟩ := candidates_shape twoBoxes
  obtain ⟨-, -, hknown, hrepeat⟩ := hnames { imports := ["a.*", "b.*", "a.*"] } "Box"
  rw [hcandidates] at hknown
  refine ⟨hcandidates, hknown (Nat.le_refl 2), ?_, ?_⟩
  · exact hrepeat ["a.*", "b.*"] [] "a.*" List.mem_cons_self
  · exact (hreferences { imports := ["a.*", "b.*", "a.*"] } { name := "Box" }).2.2
      (.inr (by decide +kernel))

end ClassIndex
end GroovyNew
