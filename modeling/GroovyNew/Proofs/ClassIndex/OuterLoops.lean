/-
# Loops through outer classes end

Three searches go from a class to its outer class, from there to the next one, and so on: for the package of
a class, for a member type in scope and for the enclosing instance of a new inner class.  Each is a loop, in
which a turn looks at one name and ends the loop or goes on with the outer class (`Turn`).  `Runs` says which
names a loop looks at and with what it ends; it sets no bound to the number of turns.

| loop | ends at | with |
| --- | --- | --- |
| `packageTurn` | a class without outer class | the package of its name |
| `memberTurn` | a class of the simple name, or with a member of it | that class or member |
| `enclosingTurn` | an heir of the class that is looked for, or a class that is not inner | the heir |

Outer classes are names, and a name may be followed whether or not it is declared.  If no class is around
itself, each turn leaves fewer declared classes outwards from the name (`classesOutwards`), and so every
loop ends, without looking at a name twice and with at most one name that is not declared
(`outer_loops_end`).  The searches of the index bound their loops by the number of classes; that bound cuts
nothing off.
-/

import GroovyNew.Proofs.ClassIndex.Indexing
import GroovyNew.Proofs.Constructors.Innermost
import Mathlib.Data.Finset.Card
import Mathlib.Logic.Relation

namespace GroovyNew

/-! ### Loops -/

/-- What one turn of a loop does. -/
inductive Turn (α : Type) where
  /-- It ends the loop. -/
  | done (result : α)
  /-- It goes on with another name. -/
  | next (name : String)

/-- From a name on, the loop looks at the names one after the other and ends with the result. -/
inductive Runs {α : Type} (turn : String → Turn α) : String → List String → α → Prop
  | done {name : String} {result : α} (h : turn name = .done result) : Runs turn name [name] result
  | next {name outer : String} {visited : List String} {result : α} (h : turn name = .next outer)
    (rest : Runs turn outer visited result) : Runs turn name (name :: visited) result

/-- The loop ends with the result, having looked at no name twice and at no more than `bound` names
after the first. -/
structure EndsWith {α : Type} (turn : String → Turn α) (start : String) (bound : Nat) (result : α) :
    Prop where
  ends : ∃ visited, Runs turn start visited result
  bounded : ∀ visited last, Runs turn start visited last →
    last = result ∧ visited.Nodup ∧ visited.length ≤ bound + 1

/-- A bounded search takes the turns of the loop: it yields what a last turn ends with, and goes on with the
next name, for which the bound is one less. -/
structure Searches {α : Type} (turn : String → Turn α) (search : Nat → String → α) : Prop where
  done : ∀ bound name result, turn name = .done result → search bound name = result
  next : ∀ bound name outer, turn name = .next outer → search (bound + 1) name = search bound outer

/-- A bounded search yields what the loop ends with, if the bound admits its turns. -/
theorem Searches.eq_of_runs {α : Type} {turn : String → Turn α} {search : Nat → String → α}
    (hsearch : Searches turn search) {start : String} {visited : List String} {result : α}
    (h : Runs turn start visited result) {bound : Nat} (hbound : visited.length ≤ bound + 1) :
    search bound start = result := by
  induction h generalizing bound with
  | done h => exact hsearch.done bound _ _ h
  | next h rest ih =>
    cases bound with
    | zero =>
      cases rest <;> exact absurd hbound (by simp)
    | succ bound =>
      rw [hsearch.next bound _ _ h]
      exact ih (Nat.le_of_succ_le_succ hbound)

/-! ### Classes outwards -/

/-- The class is declared with the other one as its outer class. -/
def IsNestedIn (ds : List ClassDecl) (fqn outer : String) : Prop :=
  ∃ d ∈ ds, d.fqn = fqn ∧ d.outer = some outer

/-- No class is around itself. -/
def HasAcyclicOuters (ds : List ClassDecl) : Prop :=
  ∀ fqn, ¬Relation.TransGen (IsNestedIn ds) fqn fqn

open Classical in
/-- The number of declared classes that are reached from a name by going outwards, itself included. -/
noncomputable def classesOutwards (ds : List ClassDecl) (fqn : String) : Nat :=
  ((ds.map ClassDecl.fqn).toFinset.filter (Relation.ReflTransGen (IsNestedIn ds) fqn)).card

theorem classesOutwards_le (ds : List ClassDecl) (fqn : String) : classesOutwards ds fqn ≤ ds.length := by
  classical
  calc classesOutwards ds fqn ≤ (ds.map ClassDecl.fqn).toFinset.card := Finset.card_filter_le _ _
    _ ≤ (ds.map ClassDecl.fqn).length := List.toFinset_card_le _
    _ = ds.length := List.length_map _

/-- **Going outwards leaves fewer classes**: the one that is left, for one, if it is not around itself. -/
theorem classesOutwards_lt {ds : List ClassDecl} (hacyclic : HasAcyclicOuters ds) {fqn outer : String}
    (h : IsNestedIn ds fqn outer) : classesOutwards ds outer < classesOutwards ds fqn := by
  classical
  have hdeclared : fqn ∈ (ds.map ClassDecl.fqn).toFinset := by
    obtain ⟨d, hd, rfl, -⟩ := h
    exact List.mem_toFinset.2 (List.mem_map_of_mem hd)
  have hleft : ¬Relation.ReflTransGen (IsNestedIn ds) outer fqn := fun hback =>
    hacyclic fqn (.head' h hback)
  refine Finset.card_lt_card (Finset.ssubset_iff_subset_ne.2 ⟨fun b hb => ?_, fun heq => hleft ?_⟩)
  · obtain ⟨hmem, hreach⟩ := Finset.mem_filter.1 hb
    exact Finset.mem_filter.2 ⟨hmem, .head h hreach⟩
  · have hmem := Finset.mem_filter.2 ⟨hdeclared, Relation.ReflTransGen.refl (r := IsNestedIn ds)⟩
    rw [← heq] at hmem
    exact (Finset.mem_filter.1 hmem).2

/-- A loop that only goes from a class to its outer class. -/
def GoesOutwards {α : Type} (ds : List ClassDecl) (turn : String → Turn α) : Prop :=
  ∀ name next, turn name = .next next → IsNestedIn ds name next

section

variable {α : Type} {ds : List ClassDecl} {turn : String → Turn α} {start : String}
  {visited : List String} {result : α}
variable (hacyclic : HasAcyclicOuters ds) (hturn : GoesOutwards ds turn)
include hacyclic hturn

/-- No name that is looked at has more classes outwards than the first one. -/
theorem Runs.classesOutwards_le (h : Runs turn start visited result) :
    ∀ name ∈ visited, classesOutwards ds name ≤ classesOutwards ds start := by
  induction h with
  | done h =>
    intro name hname
    rw [List.mem_singleton.1 hname]
  | next h rest ih =>
    have hlt := classesOutwards_lt hacyclic (hturn _ _ h)
    refine List.forall_mem_cons.2 ⟨Nat.le_refl _, fun name hname => ?_⟩
    exact Nat.le_trans (ih name hname) (Nat.le_of_lt hlt)

/-- **A loop outwards looks at no name twice.** -/
theorem Runs.nodup (h : Runs turn start visited result) : visited.Nodup := by
  induction h with
  | done h => exact List.nodup_singleton _
  | next h rest ih =>
    have hlt := classesOutwards_lt hacyclic (hturn _ _ h)
    refine List.nodup_cons.2 ⟨fun hmem => ?_, ih⟩
    exact absurd (rest.classesOutwards_le hacyclic hturn _ hmem) (Nat.not_le_of_lt hlt)

/-- **A loop outwards takes one turn for each class outwards, and one more.** -/
theorem Runs.length_le (h : Runs turn start visited result) :
    visited.length ≤ classesOutwards ds start + 1 := by
  induction h with
  | done h => exact Nat.le_add_left 1 _
  | next h rest ih =>
    have hlt := classesOutwards_lt hacyclic (hturn _ _ h)
    exact Nat.succ_le_succ (Nat.le_trans ih hlt)

/-- **A loop outwards ends.** -/
theorem exists_runs (start : String) : ∃ visited result, Runs turn start visited result := by
  induction hn : classesOutwards ds start using Nat.strong_induction_on generalizing start with
  | _ n ih =>
    cases hstart : turn start with
    | done result => exact ⟨[start], result, .done hstart⟩
    | next outer =>
      have hlt := classesOutwards_lt hacyclic (hturn start outer hstart)
      obtain ⟨visited, result, hrest⟩ := ih _ (hn ▸ hlt) outer rfl
      exact ⟨start :: visited, result, .next hstart hrest⟩

/-- **A loop outwards ends with what a search yields that is bounded by the number of declarations.** -/
theorem Searches.endsWith {search : Nat → String → α} (hsearch : Searches turn search) (start : String) :
    EndsWith turn start ds.length (search ds.length start) := by
  have hlength : ∀ visited last, Runs turn start visited last → visited.length ≤ ds.length + 1 :=
    fun visited last h =>
      Nat.le_trans (h.length_le hacyclic hturn) (Nat.succ_le_succ (classesOutwards_le ds start))
  have hend : ∀ visited last, Runs turn start visited last → last = search ds.length start :=
    fun visited last h => (hsearch.eq_of_runs h (hlength visited last h)).symm
  constructor
  · obtain ⟨visited, last, hruns⟩ := exists_runs hacyclic hturn start
    exact ⟨visited, hend visited last hruns ▸ hruns⟩
  · exact fun visited last h =>
      ⟨hend visited last h, h.nodup hacyclic hturn, hlength visited last h⟩

end

namespace ClassIndex

/-! ### The three loops -/

/-- Goes on with the outer class; ends the loop if there is none. -/
def outwards {α : Type} (index : ClassIndex) (name : String) (result : α) : Turn α :=
  match index.outer? name with
  | some outer => .next outer
  | none => .done result

/-- A turn of the loop for the package of a class. -/
def packageTurn (index : ClassIndex) (name : String) : Turn (Option String) :=
  index.outwards name (Name.package? name)

/-- A turn of the loop for a member type in scope. -/
def memberTurn (index : ClassIndex) (simple name : String) : Turn (Option String) :=
  if Name.lastSegment name = simple then .done (some name)
  else if index.declares (Name.qualify name simple) then .done (some (Name.qualify name simple))
  else index.outwards name none

/-- A turn of the loop for the enclosing instance. -/
def enclosingTurn (index : ClassIndex) (outer name : String) : Turn (Option String) :=
  if index.typeSystem.isInheritor name outer then .done (some name)
  else match (index.typeSystem.typeInfo? name).bind TypeInfo.enclosing? with
    | some next => .next next
    | none => .done none

variable {index : ClassIndex} {ds : List ClassDecl} {name next : String}

theorem outwards_eq_next_iff {α : Type} {a : α} :
    index.outwards name a = .next next ↔ index.outer? name = some next := by
  unfold outwards
  cases index.outer? name <;> simp

theorem outwards_eq_done_iff {α : Type} {a b : α} :
    index.outwards name a = .done b ↔ index.outer? name = none ∧ a = b := by
  unfold outwards
  cases index.outer? name <;> simp

/-! ### The searches of the index -/

theorem outerChainFrom_succ_of_next (h : index.outer? name = some next) (bound : Nat) :
    index.outerChainFrom (bound + 1) name = name :: index.outerChainFrom bound next := by
  rw [outerChainFrom, h]

theorem outerChainFrom_of_none (h : index.outer? name = none) (bound : Nat) :
    index.outerChainFrom bound name = [name] := by
  cases bound with
  | zero => rfl
  | succ bound => rw [outerChainFrom, h]

/-- A chain of outer classes begins with the class itself. -/
theorem exists_outerChainFrom_eq_cons (index : ClassIndex) (bound : Nat) (name : String) :
    ∃ chain, index.outerChainFrom bound name = name :: chain := by
  cases bound with
  | zero => exact ⟨[], rfl⟩
  | succ bound =>
    unfold outerChainFrom
    split <;> exact ⟨_, rfl⟩

theorem searches_package? (index : ClassIndex) : Searches index.packageTurn
    fun bound name => Name.package? ((index.outerChainFrom bound name).getLastD name) where
  done bound name result h := by
    obtain ⟨hnone, rfl⟩ := outwards_eq_done_iff.1 h
    rw [outerChainFrom_of_none hnone]
    rfl
  next bound name outer h := by
    obtain ⟨chain, hchain⟩ := index.exists_outerChainFrom_eq_cons bound outer
    rw [outerChainFrom_succ_of_next (outwards_eq_next_iff.1 h), hchain]
    rfl

theorem searches_memberInChain? (index : ClassIndex) (simple : String) :
    Searches (index.memberTurn simple)
      fun bound name => index.memberInChain? simple (index.outerChainFrom bound name) where
  done bound name result h := by
    obtain ⟨chain, hchain⟩ := index.exists_outerChainFrom_eq_cons bound name
    unfold memberTurn at h
    split at h
    · rename_i hname
      rw [hchain, memberInChain?, if_pos hname, Turn.done.inj h]
    · rename_i hname
      split at h
      · rename_i hmember
        rw [hchain, memberInChain?, if_neg hname, if_pos hmember, Turn.done.inj h]
      · rename_i hmember
        obtain ⟨hnone, rfl⟩ := outwards_eq_done_iff.1 h
        rw [outerChainFrom_of_none hnone, memberInChain?, if_neg hname, if_neg hmember, memberInChain?]
  next bound name outer h := by
    unfold memberTurn at h
    split at h
    · cases h
    · rename_i hname
      split at h
      · cases h
      · rename_i hmember
        rw [outerChainFrom_succ_of_next (outwards_eq_next_iff.1 h), memberInChain?, if_neg hname,
          if_neg hmember]

theorem searches_enclosingFrom? (index : ClassIndex) (outer : String) :
    Searches (index.enclosingTurn outer)
      fun bound name => index.typeSystem.enclosingFrom? outer (bound + 1) name where
  done bound name result h := by
    rw [enclosingTurn] at h
    rw [TypeSystem.enclosingFrom?]
    by_cases hinherits : index.typeSystem.isInheritor name outer
    · rw [if_pos hinherits] at h ⊢
      rw [Turn.done.inj h]
    · rw [if_neg hinherits] at h ⊢
      cases hnext : (index.typeSystem.typeInfo? name).bind TypeInfo.enclosing? with
      | none =>
        rw [hnext] at h
        exact Turn.done.inj h
      | some next => rw [hnext] at h; cases h
  next bound name next h := by
    rw [enclosingTurn] at h
    rw [TypeSystem.enclosingFrom?]
    by_cases hinherits : index.typeSystem.isInheritor name outer
    · rw [if_pos hinherits] at h
      cases h
    · rw [if_neg hinherits] at h ⊢
      cases hnext : (index.typeSystem.typeInfo? name).bind TypeInfo.enclosing? with
      | none => rw [hnext] at h; cases h
      | some outward =>
        rw [hnext] at h
        rw [Turn.next.inj h]

/-! ### Outwards in an index of declarations -/

/-- The index of the declarations, while their constructors are being read or after. -/
def IsIndexOf (index : ClassIndex) (ds : List ClassDecl) : Prop :=
  index = entries ds ∨ ofDecls ds = .ok index

/-- An index of declarations describes each class as it is declared. -/
theorem IsIndexOf.map_info (h : index.IsIndexOf ds) :
    index.classes.map (·.info) = ds.map ClassDecl.info := by
  obtain rfl | h := h
  · rw [entries, List.map_map]
    rfl
  · refine map_of_mapM (ofDecls_eq_ok.1 h).2 fun d indexed hd => ?_
    obtain ⟨members, -, rfl⟩ := complete_eq_ok.1 hd
    rfl

theorem IsIndexOf.size_eq (h : index.IsIndexOf ds) : index.size = ds.length := by
  have hlength := congrArg List.length h.map_info
  rwa [List.length_map, List.length_map] at hlength

/-- The outer class in an index is the declared one. -/
theorem IsIndexOf.isNestedIn (h : index.IsIndexOf ds) (houter : index.outer? name = some next) :
    IsNestedIn ds name next := by
  obtain ⟨indexed, hfind, hnext⟩ := Option.bind_eq_some_iff.1 houter
  have hname : indexed.info.fqn = name := by simpa using List.find?_some hfind
  have hinfo : indexed.info ∈ index.classes.map (·.info) :=
    List.mem_map_of_mem (List.mem_of_find?_eq_some hfind)
  rw [h.map_info] at hinfo
  obtain ⟨d, hd, heq⟩ := List.mem_map.1 hinfo
  rw [← heq] at hname hnext
  exact ⟨d, hd, hname, hnext⟩

section

variable (h : index.IsIndexOf ds)
include h

theorem IsIndexOf.goesOutwards_packageTurn : GoesOutwards ds index.packageTurn :=
  fun _ _ hnext => h.isNestedIn (outwards_eq_next_iff.1 hnext)

theorem IsIndexOf.goesOutwards_memberTurn (simple : String) :
    GoesOutwards ds (index.memberTurn simple) := by
  intro name next hnext
  unfold memberTurn at hnext
  split at hnext
  · cases hnext
  · split at hnext
    · cases hnext
    · exact h.isNestedIn (outwards_eq_next_iff.1 hnext)

theorem IsIndexOf.goesOutwards_enclosingTurn (outer : String) :
    GoesOutwards ds (index.enclosingTurn outer) := by
  intro name next hnext
  unfold enclosingTurn at hnext
  split at hnext
  · cases hnext
  · split at hnext
    · rename_i henclosing
      obtain rfl := Turn.next.inj hnext
      exact h.isNestedIn (enclosing?_eq_some_iff.1 henclosing).2
    · cases hnext

end

/-- **Loops through outer classes end.**  If no declared class is around itself, the three loops end from
every name, without looking at a name twice, and the names that they look at are at most one more than the
declared classes.  They end with the package of the class, with the member type in scope and with the
enclosing instance, as the searches of the index yield them.  This holds of the finished index and of the
one over which the constructors are read. -/
theorem outer_loops_end (hacyclic : HasAcyclicOuters ds) (h : index.IsIndexOf ds) (start : String) :
    EndsWith index.packageTurn start ds.length (index.packageOf? start) ∧
      (∀ scope simple, scope.enclosingClass = some start →
        EndsWith (index.memberTurn simple) start ds.length (index.memberType? scope simple)) ∧
      ∀ (ctx : Context) inner outer, ctx.enclosingClass = some start → ctx.isStatic = false →
        inner.enclosing? = some outer →
        ∃ found, EndsWith (index.enclosingTurn outer) start ds.length found ∧
          index.typeSystem.enclosingInstance? ctx inner = found.map .id := by
  refine ⟨?_, fun scope simple hscope => ?_, fun ctx inner outer hctx hstatic hinner => ?_⟩
  · rw [packageOf?, outermost, outerChain, h.size_eq]
    exact index.searches_package?.endsWith hacyclic h.goesOutwards_packageTurn start
  · have hfound : index.memberType? scope simple =
        index.memberInChain? simple (index.outerChainFrom ds.length start) := by
      simp only [memberType?, hscope, outerChain, h.size_eq]
    rw [hfound]
    exact (index.searches_memberInChain? simple).endsWith hacyclic (h.goesOutwards_memberTurn simple) start
  · refine ⟨_, (index.searches_enclosingFrom? outer).endsWith hacyclic
      (h.goesOutwards_enclosingTurn outer) start, ?_⟩
    rw [TypeSystem.enclosingInstance?, hinner, hctx, hstatic, ← h.size_eq]
    rfl

/-- `Map.Entry` and `Map.Entry.View`, without a declaration of `Map`. -/
def nestedEntries : List ClassDecl :=
  [{ fqn := "util.Map.Entry", outer := some "util.Map" },
    { fqn := "util.Map.Entry.View", outer := some "util.Map.Entry" }]

/-- A class name is longer than that of the class around it. -/
theorem length_lt_of_isNestedIn {fqn outer : String} (h : IsNestedIn nestedEntries fqn outer) :
    outer.length < fqn.length := by
  obtain ⟨d, hd, rfl, houter⟩ := h
  simp only [nestedEntries, List.mem_cons, List.not_mem_nil, or_false] at hd
  obtain rfl | rfl := hd <;> obtain rfl := Option.some.inj houter <;> decide

/-- Outwards from `View`, the last of the three names is that of the class that is not declared: it tells the
package, and it is the class of the enclosing instance of a new entry. -/
theorem outer_loops_end_view : HasAcyclicOuters nestedEntries ∧
    (entries nestedEntries).IsIndexOf nestedEntries ∧
    EndsWith (entries nestedEntries).packageTurn "util.Map.Entry.View" 2 (some "util") ∧
    EndsWith ((entries nestedEntries).memberTurn "View") "util.Map.Entry" 2
      (some "util.Map.Entry.View") ∧
    EndsWith ((entries nestedEntries).enclosingTurn "util.Map") "util.Map.Entry.View" 2
      (some "util.Map") := by
  have hacyclic : HasAcyclicOuters nestedEntries := by
    have hlt : ∀ fqn outer, Relation.TransGen (IsNestedIn nestedEntries) fqn outer →
        outer.length < fqn.length := by
      intro fqn outer h
      induction h with
      | single h => exact length_lt_of_isNestedIn h
      | tail _ h ih => exact Nat.lt_trans (length_lt_of_isNestedIn h) ih
    exact fun fqn h => Nat.lt_irrefl _ (hlt fqn fqn h)
  have hindex : (entries nestedEntries).IsIndexOf nestedEntries := .inl rfl
  obtain ⟨hpackage, -, henclosing⟩ := outer_loops_end hacyclic hindex "util.Map.Entry.View"
  obtain ⟨-, hmember, -⟩ := outer_loops_end hacyclic hindex "util.Map.Entry"
  refine ⟨hacyclic, hindex, ?_, ?_, ?_⟩
  · have heq : (entries nestedEntries).packageOf? "util.Map.Entry.View" = some "util" := by
      decide +kernel
    rwa [heq] at hpackage
  · have heq : (entries nestedEntries).memberType? { enclosingClass := some "util.Map.Entry" } "View" =
        some "util.Map.Entry.View" := by
      decide +kernel
    rw [← heq]
    exact hmember _ "View" rfl
  · have heq : (entries nestedEntries).typeSystem.enclosingInstance?
        { enclosingClass := some "util.Map.Entry.View" }
        { fqn := "util.Map.Entry", outer := some "util.Map" } = some (.id "util.Map") := by
      decide +kernel
    obtain ⟨found, hends, hfound⟩ := henclosing { enclosingClass := some "util.Map.Entry.View" }
      { fqn := "util.Map.Entry", outer := some "util.Map" } "util.Map" rfl rfl (by decide)
    rw [heq] at hfound
    cases found with
    | none => cases hfound
    | some found =>
      obtain rfl := TypeRef.id.inj (Option.some.inj hfound)
      exact hends

end ClassIndex
end GroovyNew
