/-
# Several candidates are known classes

The stages of a name's search take a class from the file's own declarations, from the classes around the
place or from a single import without asking whether it is known; such a class is the only candidate.
Several candidates come from the on-demand imports only (`ClassIndex.simpleCandidates_cases`).  What these
give is a list of known classes without its repetitions (`ClassIndex.onDemandImports_eq_append`), so
several candidates are known (`ClassIndex.length_candidates_le_one_or_knows`), and the first candidate is
the first known one, if any candidate is known at all (`ClassIndex.exists_head?_candidates`).
-/

import GroovyNew.ClassIndex.Lookup

namespace GroovyNew
namespace ClassIndex

variable {index : ClassIndex} {scope : Scope} {name fqn : String}

/-! ### Known classes -/

/-- The description of a class tells its name. -/
theorem fqn_of_typeInfo?_eq_some {info : TypeInfo} (h : index.typeInfo? fqn = some info) :
    info.fqn = fqn := by
  unfold typeInfo? at h
  split at h
  · rename_i c hfind
    obtain rfl := Option.some.inj h
    have hname := List.find?_some hfind
    exact eq_of_beq hname
  · obtain ⟨entry, hfind, rfl⟩ := Option.map_eq_some_iff.1 h
    have hname := List.find?_some hfind
    exact eq_of_beq hname

/-- A known class has a description. -/
theorem isSome_typeInfo?_of_knows (h : index.knows fqn = true) : (index.typeInfo? fqn).isSome = true := by
  unfold typeInfo?
  cases hfind : index.find? fqn with
  | some c => rfl
  | none =>
    rw [knows, declares, hfind, Option.isSome_none, Bool.false_or] at h
    rw [WellKnown.typeInfo?, Option.isSome_map]
    exact h

/-- A class that has a description is known. -/
theorem knows_of_typeInfo?_eq_some {info : TypeInfo} (h : index.typeInfo? fqn = some info) :
    index.knows fqn = true := by
  unfold typeInfo? at h
  rw [knows, declares]
  split at h
  · rename_i c hfind
    rw [hfind]
    rfl
  · obtain ⟨entry, hfind, -⟩ := Option.map_eq_some_iff.1 h
    rw [WellKnown.contains, hfind, Option.isSome_some, Bool.or_true]

/-! ### The stages -/

/-- The known classes of a simple name in the packages of the on-demand imports, with repetitions. -/
def onDemandClasses (index : ClassIndex) (name : String) (imports : List String) : List String :=
  ((imports.filterMap Name.onDemand?).map (Name.qualify · name)).filter index.knows

/-- What is seen matters as a set. -/
theorem unseen_congr {seen seen' : List String} (h : ∀ n, n ∈ seen ↔ n ∈ seen') (ps : List String) :
    unseen seen ps = unseen seen' ps := by
  induction ps generalizing seen seen' with
  | nil => rfl
  | cons p ps ih =>
    have hcontains : seen.contains p = seen'.contains p := by
      rw [Bool.eq_iff_iff, List.contains_iff_mem, List.contains_iff_mem, h]
    have hcons : ∀ n, n ∈ p :: seen ↔ n ∈ p :: seen' := fun n => by
      rw [List.mem_cons, List.mem_cons, h]
    rw [unseen, unseen, hcontains, ih h, ih hcons]

theorem unseen_append (seen ps qs : List String) :
    unseen seen (ps ++ qs) = unseen seen ps ++ unseen (ps ++ seen) qs := by
  induction ps generalizing seen with
  | nil => rfl
  | cons p ps ih =>
    have hseen : ∀ n, n ∈ ps ++ p :: seen ↔ n ∈ p :: ps ++ seen := fun n => by simp [or_left_comm]
    rw [List.cons_append, unseen, unseen]
    split
    · rename_i hp
      rw [List.contains_iff_mem] at hp
      rw [ih]
      refine congrArg _ (unseen_congr (fun n => ?_) qs)
      rw [List.cons_append, List.mem_cons]
      exact ⟨.inr, fun h => h.elim (fun heq => heq ▸ List.mem_append_right ps hp) id⟩
    · rw [ih, List.cons_append, unseen_congr hseen]

theorem unseen_eq_nil_iff {ps : List String} : unseen [] ps = [] ↔ ps = [] := by
  rw [List.eq_nil_iff_forall_not_mem, List.eq_nil_iff_forall_not_mem]
  simp only [mem_unseen, List.not_mem_nil, not_false_eq_true, and_true]

/-- Of names with one more behind them, this is counted unless it is among the others. -/
theorem unseen_concat (ps : List String) (q : String) :
    unseen [] (ps ++ [q]) = if q ∈ unseen [] ps then unseen [] ps else unseen [] ps ++ [q] := by
  rw [unseen_append, List.append_nil, unseen, unseen, unseen]
  simp only [List.contains_iff_mem, mem_unseen, List.not_mem_nil, not_false_eq_true, and_true]
  split
  · exact List.append_nil _
  · rfl

/-- **The on-demand imports add the known classes that they give, each once.** -/
theorem onDemandImports_eq_append (index : ClassIndex) (name : String) (imports hits : List String) :
    index.onDemandImports name imports hits =
      hits ++ unseen hits (index.onDemandClasses name imports) := by
  induction imports generalizing hits with
  | nil => exact (List.append_nil hits).symm
  | cons i imports ih =>
    rw [onDemandImports]
    cases hi : Name.onDemand? i with
    | none =>
      have hclasses : index.onDemandClasses name (i :: imports) = index.onDemandClasses name imports := by
        rw [onDemandClasses, List.filterMap_cons_none hi, ← onDemandClasses]
      rw [hclasses]
      exact ih hits
    | some p =>
      have hclasses : index.onDemandClasses name (i :: imports) =
          if index.knows (Name.qualify p name) then
            Name.qualify p name :: index.onDemandClasses name imports
          else index.onDemandClasses name imports := by
        rw [onDemandClasses, List.filterMap_cons_some hi, List.map_cons, List.filter_cons,
          ← onDemandClasses]
      have hseen : ∀ n, n ∈ hits ++ [Name.qualify p name] ↔ n ∈ Name.qualify p name :: hits :=
        fun n => by simp [or_comm]
      dsimp only
      rw [hclasses, ih, ih]
      cases hknows : index.knows (Name.qualify p name) with
      | false => simp
      | true =>
        rw [if_pos rfl, unseen]
        cases hits.contains (Name.qualify p name) with
        | true => simp
        | false => simp [unseen_congr hseen]

theorem mem_or_knows_of_mem_onDemandImports {imports hits : List String}
    (h : fqn ∈ index.onDemandImports name imports hits) : fqn ∈ hits ∨ index.knows fqn = true := by
  rw [onDemandImports_eq_append, List.mem_append] at h
  exact h.imp_right fun hnew => (List.mem_filter.1 (mem_unseen.1 hnew).1).2

/-- A simple name has what the on-demand imports give, or the one candidate of another stage, or none. -/
theorem simpleCandidates_cases (index : ClassIndex) (scope : Scope) (name : String) :
    index.simpleCandidates scope name = index.onDemandImports name scope.imports [] ∨
      ∃ found : Option String, index.simpleCandidates scope name = found.toList ∧
        ∀ fqn, found = some fqn →
          declaredType? scope name = some fqn ∨ index.memberType? scope name = some fqn ∨
            singleImport? scope name = some fqn ∨ index.packageMember? scope name = some fqn ∨
            index.defaultImport? name = some fqn ∨ fqn = name := by
  unfold simpleCandidates
  split
  · rename_i d hd
    exact .inr ⟨some d, rfl, fun _ h => .inl (hd.trans h)⟩
  split
  · rename_i d hd
    exact .inr ⟨some d, rfl, fun _ h => .inr (.inl (hd.trans h))⟩
  split
  · rename_i d hd
    exact .inr ⟨some d, rfl, fun _ h => .inr (.inr (.inl (hd.trans h)))⟩
  split
  · rename_i d hd
    exact .inr ⟨some d, rfl, fun _ h => .inr (.inr (.inr (.inl (hd.trans h))))⟩
  split
  · rename_i hits
    exact .inl hits.symm
  split
  · rename_i d hd
    exact .inr ⟨some d, rfl, fun _ h => .inr (.inr (.inr (.inr (.inl (hd.trans h)))))⟩
  split
  · exact .inr ⟨some name, rfl, fun _ h => .inr (.inr (.inr (.inr (.inr (Option.some.inj h).symm))))⟩
  · exact .inr ⟨none, rfl, nofun⟩

/-- A simple name has one candidate at most, or known ones only. -/
theorem length_simpleCandidates_le_one_or_knows (index : ClassIndex) (scope : Scope) (name : String) :
    (index.simpleCandidates scope name).length ≤ 1 ∨
      ∀ fqn ∈ index.simpleCandidates scope name, index.knows fqn = true := by
  obtain hcandidates | ⟨found, hcandidates, -⟩ := index.simpleCandidates_cases scope name
  · rw [hcandidates]
    exact .inr fun fqn hfqn => (mem_or_knows_of_mem_onDemandImports hfqn).resolve_left List.not_mem_nil
  · rw [hcandidates]
    exact .inl found.length_toList_le

/-- **A name has one candidate at most, or known ones only.** -/
theorem length_candidates_le_one_or_knows (index : ClassIndex) (scope : Scope) (name : String) :
    (index.candidates scope name).length ≤ 1 ∨
      ∀ fqn ∈ index.candidates scope name, index.knows fqn = true := by
  unfold candidates
  split
  · exact length_simpleCandidates_le_one_or_knows index scope name
  · split
    · exact .inl (Nat.le_refl 1)
    · exact .inr fun fqn h => (List.mem_filter.1 h).2

/-- The first candidate that a function of known classes is defined on is the first candidate. -/
theorem exists_head?_candidates {α : Type} {f : String → Option α}
    (hf : ∀ fqn, index.knows fqn = true → (f fqn).isSome = true) {a : α}
    (h : ((index.candidates scope name).filterMap f).head? = some a) :
    ∃ fqn, (index.candidates scope name).head? = some fqn ∧ f fqn = some a := by
  have hshape := length_candidates_le_one_or_knows index scope name
  cases hs : index.candidates scope name with
  | nil =>
    rw [hs] at h
    cases h
  | cons fqn fqns =>
    rw [hs] at h hshape
    refine ⟨fqn, rfl, ?_⟩
    cases hfqn : f fqn with
    | some b =>
      rw [List.filterMap_cons_some hfqn] at h
      exact h
    | none =>
      exfalso
      obtain hone | hknown := hshape
      · obtain rfl : fqns = [] := List.length_eq_zero_iff.1 (by simpa using hone)
        rw [List.filterMap_cons_none hfqn] at h
        cases h
      · have hsome := hf fqn (hknown fqn List.mem_cons_self)
        rw [hfqn] at hsome
        cases hsome

end ClassIndex
end GroovyNew
