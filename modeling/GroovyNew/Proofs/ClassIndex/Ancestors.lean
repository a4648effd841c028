/-
# The walk up the inheritance hierarchy

A declared class has edges to its superclass and its interfaces.  `ClassIndex.Climbs` counts the edges of
a way up, `ClassIndex.Inherits` says that there is a way of one edge or more, and `ClassIndex.distance` is
the length of a shortest one.  Declarations may be circular, may name a class as its own parent, and may
name classes that are not declared.

`ClassIndex.Walks` is the breadth-first loop without a bound on its steps: the names in the queue are
expanded one after the other, until the queue is empty.  `ClassIndex.walks_walk` says that the bounded
walk comes to this end, because each name enters the queue once.  What a walk finds follows from an
invariant of queue and seen names, `ClassIndex.Frontier`: one step keeps it (`ClassIndex.Frontier.step`),
and over a whole walk it yields completeness (`ClassIndex.Walks.mem_iff`) and the order by distance
(`ClassIndex.Walks.sorted`).  `ClassIndex.ancestors_nearest_first` has all of it, and what it means for
`TypeSystem.isInheritor`.
-/

import GroovyNew.ClassIndex.Lookup
import GroovyNew.Subtyping
import Mathlib.Data.List.Basic
import Mathlib.Order.Lattice.Nat

namespace GroovyNew
namespace ClassIndex

variable {index : ClassIndex} {start name c d p : String} {n m : Nat}

/-! ### Ways up -/

/-- `n` edges, each from a class to its superclass or to one of its interfaces, lead from `start` to a
name. -/
inductive Climbs (index : ClassIndex) (start : String) : (n : Nat) → String → Prop
  | rest : Climbs index start 0 start
  | step {n : Nat} {c p : String} (hclimbs : Climbs index start n c) (hp : p ∈ index.parents c) :
      Climbs index start (n + 1) p

/-- One edge or more lead from a class up to a name. -/
def Inherits (index : ClassIndex) (start name : String) : Prop := ∃ n, index.Climbs start (n + 1) name

/-- The least number of edges from a class up to a name; zero if no way leads there. -/
noncomputable def distance (index : ClassIndex) (start name : String) : Nat :=
  sInf {n | index.Climbs start n name}

theorem Climbs.trans (h : index.Climbs start n c) (h' : index.Climbs c m d) :
    index.Climbs start (n + m) d := by
  induction h' with
  | rest => exact h
  | step _ hp ih => exact ih.step hp

theorem Climbs.eq_or_inherits (h : index.Climbs start n name) :
    name = start ∨ index.Inherits start name := by
  cases h with
  | rest => exact .inl rfl
  | step hclimbs hp => exact .inr ⟨_, hclimbs.step hp⟩

theorem exists_climbs_iff :
    (∃ n, index.Climbs start n name) ↔ name = start ∨ index.Inherits start name := by
  constructor
  · rintro ⟨n, h⟩
    exact h.eq_or_inherits
  · rintro (rfl | ⟨n, h⟩)
    · exact ⟨0, .rest⟩
    · exact ⟨n + 1, h⟩

/-- A class that is not declared has no edges. -/
theorem Climbs.eq_of_not_declares (hstart : index.declares start = false)
    (h : index.Climbs start n name) : name = start := by
  induction h with
  | rest => rfl
  | step _ hp ih =>
    rw [declares, Option.isSome_eq_false_iff, Option.isNone_iff_eq_none] at hstart
    rw [ih, parents, hstart] at hp
    cases hp

theorem Climbs.distance_le (h : index.Climbs start n name) : index.distance start name ≤ n :=
  Nat.sInf_le h

theorem Climbs.climbs_distance (h : index.Climbs start n name) :
    index.Climbs start (index.distance start name) name := by
  have hways : {n | index.Climbs start n name}.Nonempty := ⟨n, h⟩
  exact Nat.sInf_mem hways

/-! ### The walk ends -/

/-- The breadth-first loop from a queue and the names seen so far, with what it finds. -/
inductive Walks (index : ClassIndex) : (queue seen found : List String) → Prop
  | done {seen : List String} : Walks index [] seen []
  | step {c : String} {queue seen found : List String}
      (hwalks : Walks index (queue ++ unseen seen (index.parents c))
        (unseen seen (index.parents c) ++ seen) found) :
      Walks index (c :: queue) seen (unseen seen (index.parents c) ++ found)

/-- The names in the place of a superclass or an interface, with repetitions, that have not been seen. -/
def undiscovered (index : ClassIndex) (seen : List String) : List String :=
  (index.classes.flatMap fun c => c.superclass.toList ++ c.interfaces).filter fun p => p ∉ seen

theorem mem_undiscovered_of_mem_unseen {seen : List String}
    (h : p ∈ unseen seen (index.parents c)) : p ∈ index.undiscovered seen := by
  rw [mem_unseen, parents] at h
  obtain ⟨hp, hnew⟩ := h
  rw [undiscovered, List.mem_filter, decide_eq_true_iff]
  refine ⟨?_, hnew⟩
  split at hp
  · rename_i k hfind
    exact List.mem_flatMap.2 ⟨k, List.mem_of_find?_eq_some hfind, hp⟩
  · cases hp

/-- What a step finds is no longer undiscovered after it. -/
theorem length_unseen_add_length_undiscovered_le (index : ClassIndex) (c : String)
    (seen : List String) :
    (unseen seen (index.parents c)).length +
      (index.undiscovered (unseen seen (index.parents c) ++ seen)).length ≤
      (index.undiscovered seen).length := by
  set found := unseen seen (index.parents c)
  have hafter : index.undiscovered (found ++ seen) =
      (index.undiscovered seen).filter fun p => !decide (p ∈ found) := by
    rw [undiscovered, undiscovered, List.filter_filter]
    refine List.filter_congr fun p _ => ?_
    simp [not_or]
  have hsplit := List.length_eq_length_filter_add (l := index.undiscovered seen) (decide <| · ∈ found)
  have hfound : found.length ≤ ((index.undiscovered seen).filter (decide <| · ∈ found)).length := by
    refine ((nodup_unseen _ _).subperm fun p hp => ?_).length_le
    exact List.mem_filter.2 ⟨mem_undiscovered_of_mem_unseen hp, decide_eq_true hp⟩
  rw [hafter]
  omega

/-- With a step for each name in the queue and each one still to be discovered, the walk comes to its
end. -/
theorem walks_walk (index : ClassIndex) {fuel : Nat} {queue seen : List String}
    (hfuel : queue.length + (index.undiscovered seen).length ≤ fuel) :
    index.Walks queue seen (index.walk fuel queue seen) := by
  induction fuel generalizing queue seen with
  | zero =>
    obtain rfl : queue = [] := List.length_eq_zero_iff.1 (by omega)
    exact .done
  | succ fuel ih =>
    cases queue with
    | nil => exact .done
    | cons c queue =>
      have hstep := index.length_unseen_add_length_undiscovered_le c seen
      refine .step (ih ?_)
      rw [List.length_append]
      rw [List.length_cons] at hfuel
      omega

theorem walks_ancestors (index : ClassIndex) (start : String) :
    index.Walks [start] [start] (index.ancestors start) := by
  refine index.walks_walk ?_
  have hle : (index.undiscovered [start]).length ≤ index.parentCount := List.length_filter_le ..
  rw [List.length_singleton]
  omega

/-! ### What a walk finds -/

namespace Walks

variable {queue seen found : List String}

theorem not_mem_seen (h : index.Walks queue seen found) (hp : p ∈ found) : p ∉ seen := by
  induction h with
  | done => cases hp
  | step _ ih =>
    rcases List.mem_append.1 hp with hnew | hlater
    · exact (mem_unseen.1 hnew).2
    · exact fun hseen => ih hlater (List.mem_append_right _ hseen)

theorem nodup (h : index.Walks queue seen found) : found.Nodup := by
  induction h with
  | done => exact .nil
  | step hwalks ih =>
    refine List.Nodup.append (nodup_unseen _ _) ih fun p hnew hlater => ?_
    exact hwalks.not_mem_seen hlater (List.mem_append_left _ hnew)

end Walks

/-- The state of a walk from `start`: all that is seen lies on a way up, all that is seen and no longer
in the queue has been expanded, and the queue is in the order of the distance, which grows in it by one
at most. -/
structure Frontier (index : ClassIndex) (start : String) (queue seen : List String) : Prop where
  start_mem : start ∈ seen
  queue_subset : queue ⊆ seen
  climbs : ∀ c ∈ seen, ∃ n, index.Climbs start n c
  expanded : ∀ c ∈ seen, c ∉ queue → ∀ p ∈ index.parents c, p ∈ seen
  sorted : queue.Pairwise fun c d => index.distance start c ≤ index.distance start d
  narrow : ∀ c ∈ queue, ∀ d ∈ queue, index.distance start d ≤ index.distance start c + 1

namespace Frontier

variable {queue seen found : List String}

theorem initial (index : ClassIndex) (start : String) : index.Frontier start [start] [start] where
  start_mem := List.mem_singleton_self start
  queue_subset := List.Subset.refl _
  climbs c hc := by
    rw [List.mem_singleton.1 hc]
    exact ⟨0, .rest⟩
  expanded c hc hqueue := absurd hc hqueue
  sorted := List.pairwise_singleton _ _
  narrow c hc d hd := by
    rw [List.mem_singleton.1 hc, List.mem_singleton.1 hd]
    omega

/-- With an empty queue all ways up have been seen. -/
theorem mem_of_climbs_of_nil (h : index.Frontier start [] seen) (hp : index.Climbs start n p) :
    p ∈ seen := by
  induction hp with
  | rest => exact h.start_mem
  | step _ hp ih => exact h.expanded _ ih List.not_mem_nil _ hp

theorem distance_head_le (h : index.Frontier start (c :: queue) seen) (hd : d ∈ c :: queue) :
    index.distance start c ≤ index.distance start d := by
  rcases List.mem_cons.1 hd with rfl | hd
  · exact Nat.le_refl _
  · exact (List.pairwise_cons.1 h.sorted).1 d hd

/-- What is no farther than the head of the queue has been seen: a shorter way up has left the queue
behind it. -/
theorem mem_of_climbs (h : index.Frontier start (c :: queue) seen) (hp : index.Climbs start n p)
    (hn : n ≤ index.distance start c) : p ∈ seen := by
  induction hp with
  | rest => exact h.start_mem
  | @step n d p hclimbs hp ih =>
    have hnear : index.distance start d < index.distance start c := by
      have hle := hclimbs.distance_le
      omega
    have hexpanded : d ∉ c :: queue := fun hd => by
      have hfar := h.distance_head_le hd
      omega
    exact h.expanded d (ih (by omega)) hexpanded p hp

/-- What has not been seen is farther than the head of the queue. -/
theorem distance_lt (h : index.Frontier start (c :: queue) seen) (hp : index.Climbs start n p)
    (hnew : p ∉ seen) : index.distance start c < index.distance start p := by
  by_contra hle
  exact hnew (h.mem_of_climbs hp.climbs_distance (by omega))

/-- A parent of the head of the queue that has not been seen is one edge farther. -/
theorem distance_unseen (h : index.Frontier start (c :: queue) seen)
    (hp : p ∈ unseen seen (index.parents c)) :
    index.distance start p = index.distance start c + 1 := by
  obtain ⟨hparent, hnew⟩ := mem_unseen.1 hp
  obtain ⟨n, hc⟩ := h.climbs c (h.queue_subset List.mem_cons_self)
  have hclimbs := hc.climbs_distance.step hparent
  have hle := hclimbs.distance_le
  have hlt := h.distance_lt hclimbs hnew
  omega

/-- **A step of the walk keeps its frontier.** -/
theorem step (h : index.Frontier start (c :: queue) seen) :
    index.Frontier start (queue ++ unseen seen (index.parents c))
      (unseen seen (index.parents c) ++ seen) where
  start_mem := List.mem_append_right _ h.start_mem
  queue_subset := by
    intro d hd
    rcases List.mem_append.1 hd with hold | hnew
    · exact List.mem_append_right _ (h.queue_subset (List.mem_cons_of_mem c hold))
    · exact List.mem_append_left _ hnew
  climbs := by
    intro d hd
    rcases List.mem_append.1 hd with hnew | hold
    · obtain ⟨n, hc⟩ := h.climbs c (h.queue_subset List.mem_cons_self)
      exact ⟨n + 1, hc.step (mem_unseen.1 hnew).1⟩
    · exact h.climbs d hold
  expanded := by
    intro d hd hqueue p hp
    rw [List.mem_append, not_or] at hqueue
    have hold : d ∈ seen := (List.mem_append.1 hd).resolve_left hqueue.2
    by_cases hseen : p ∈ seen
    · exact List.mem_append_right _ hseen
    by_cases hdc : d = c
    · exact List.mem_append_left _ (mem_unseen.2 ⟨hdc ▸ hp, hseen⟩)
    · have hleft : d ∉ c :: queue := by
        rw [List.mem_cons, not_or]
        exact ⟨hdc, hqueue.1⟩
      exact absurd (h.expanded d hold hleft p hp) hseen
  sorted := by
    refine List.pairwise_append.2 ⟨(List.pairwise_cons.1 h.sorted).2, ?_, ?_⟩
    · refine List.pairwise_of_forall_mem_list fun p hp q hq => ?_
      rw [h.distance_unseen hp, h.distance_unseen hq]
    · intro d hd p hp
      rw [h.distance_unseen hp]
      exact h.narrow c List.mem_cons_self d (List.mem_cons_of_mem c hd)
  narrow := by
    intro d hd p hp
    have hd' : index.distance start c ≤ index.distance start d := by
      rcases List.mem_append.1 hd with hold | hnew
      · exact h.distance_head_le (List.mem_cons_of_mem c hold)
      · have hnext := h.distance_unseen hnew
        omega
    have hp' : index.distance start p ≤ index.distance start c + 1 := by
      rcases List.mem_append.1 hp with hold | hnew
      · exact h.narrow c List.mem_cons_self p (List.mem_cons_of_mem c hold)
      · exact Nat.le_of_eq (h.distance_unseen hnew)
    omega

end Frontier

namespace Walks

variable {queue seen found : List String}

/-- **A walk finds what lies on a way up and has not been seen before.** -/
theorem mem_iff (h : index.Walks queue seen found) (hfrontier : index.Frontier start queue seen) :
    p ∈ found ↔ p ∉ seen ∧ ∃ n, index.Climbs start n p := by
  induction h with
  | done =>
    constructor
    · intro hp
      cases hp
    · rintro ⟨hnew, n, hp⟩
      exact absurd (hfrontier.mem_of_climbs_of_nil hp) hnew
  | @step c queue seen found hwalks ih =>
    rw [List.mem_append, ih hfrontier.step, List.mem_append, not_or]
    constructor
    · rintro (hnew | ⟨⟨-, hnew⟩, hp⟩)
      · exact ⟨(mem_unseen.1 hnew).2, hfrontier.step.climbs p (List.mem_append_left _ hnew)⟩
      · exact ⟨hnew, hp⟩
    · rintro ⟨hnew, hp⟩
      by_cases hfound : p ∈ unseen seen (index.parents c)
      · exact .inl hfound
      · exact .inr ⟨⟨hfound, hnew⟩, hp⟩

/-- **A walk finds the near before the far.** -/
theorem sorted (h : index.Walks queue seen found) (hfrontier : index.Frontier start queue seen) :
    found.Pairwise fun c d => index.distance start c ≤ index.distance start d := by
  induction h with
  | done => exact .nil
  | @step c queue seen found hwalks ih =>
    refine List.pairwise_append.2 ⟨?_, ih hfrontier.step, ?_⟩
    · refine List.pairwise_of_forall_mem_list fun p hp q hq => ?_
      rw [hfrontier.distance_unseen hp, hfrontier.distance_unseen hq]
    · -- What is found later has not been seen now, so it is farther than the head of the queue.
      intro p hp q hq
      obtain ⟨hnew, n, hq⟩ := (hwalks.mem_iff hfrontier.step).1 hq
      have hfar := hfrontier.distance_lt hq fun hseen => hnew (List.mem_append_right _ hseen)
      rw [hfrontier.distance_unseen hp]
      exact hfar

end Walks

/-! ### All that a class inherits from -/

theorem mem_ancestors_iff : name ∈ index.ancestors start ↔ name ≠ start ∧ index.Inherits start name := by
  rw [(index.walks_ancestors start).mem_iff (Frontier.initial index start), List.mem_singleton,
    exists_climbs_iff]
  exact and_congr_right fun hne => or_iff_right hne

/-- A class is an inheritor of what it reaches by a way up, of what is well known to be an ancestor of
something on the way, and of the root of the hierarchy. -/
theorem isInheritor_iff_climbs : index.typeSystem.isInheritor start name = true ↔
    name = TypeRef.objectName ∨
      ∃ n c, index.Climbs start n c ∧ (c = name ∨ name ∈ WellKnown.ancestors c) := by
  have hway : ∀ c, c ∈ start :: index.ancestors start ↔ ∃ n, index.Climbs start n c := by
    intro c
    rw [List.mem_cons, mem_ancestors_iff, exists_climbs_iff]
    tauto
  simp only [TypeSystem.isInheritor, typeSystem, Bool.or_eq_true, beq_iff_eq, List.any_eq_true, hway,
    List.contains_iff_mem]
  constructor
  · rintro ((rfl | hobject) | ⟨c, ⟨n, hc⟩, hname⟩)
    · exact .inr ⟨0, start, .rest, .inl rfl⟩
    · exact .inl hobject
    · exact .inr ⟨n, c, hc, hname⟩
  · rintro (hobject | ⟨n, c, hc, hname⟩)
    · exact .inl (.inr hobject)
    · exact .inr ⟨c, ⟨n, hc⟩, hname⟩

/-- **The ancestors of a class are what it inherits from, each once, the near before the far.**  The
breadth-first loop from the class ends with them, on any declarations.  So a class is an inheritor of
itself, of the root, of its ancestors, and of what is well known to be an ancestor of one of these. -/
theorem ancestors_nearest_first (index : ClassIndex) (start : String) :
    index.Walks [start] [start] (index.ancestors start) ∧
      (∀ name, name ∈ index.ancestors start ↔ name ≠ start ∧ index.Inherits start name) ∧
      (index.ancestors start).Nodup ∧
      (index.ancestors start).Pairwise
        (fun c d => index.distance start c ≤ index.distance start d) ∧
      ∀ name, index.typeSystem.isInheritor start name = true ↔
        name = start ∨ name = TypeRef.objectName ∨ index.Inherits start name ∨
          ∃ c, (c = start ∨ index.Inherits start c) ∧ name ∈ WellKnown.ancestors c := by
  have hwalks := index.walks_ancestors start
  refine ⟨hwalks, fun _ => mem_ancestors_iff, hwalks.nodup, hwalks.sorted (Frontier.initial index start),
    fun name => ?_⟩
  rw [isInheritor_iff_climbs]
  constructor
  · rintro (hobject | ⟨n, c, hc, rfl | hwell⟩)
    · exact .inr (.inl hobject)
    · obtain rfl | hinherits := hc.eq_or_inherits
      · exact .inl rfl
      · exact .inr (.inr (.inl hinherits))
    · exact .inr (.inr (.inr ⟨c, hc.eq_or_inherits, hwell⟩))
  · rintro (rfl | hobject | ⟨n, hname⟩ | ⟨c, hc, hwell⟩)
    · exact .inr ⟨0, name, .rest, .inl rfl⟩
    · exact .inl hobject
    · exact .inr ⟨n + 1, name, hname, .inl rfl⟩
    · obtain ⟨n, hc⟩ := exists_climbs_iff.2 hc
      exact .inr ⟨n, c, hc, .inr hwell⟩

end ClassIndex
end GroovyNew
