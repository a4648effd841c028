/-
# A remembered value is fresh, and computed once

The steps at a cache are requests, look-ups, moves of the stamp, and invalidations.  A request may
compute a value, the computation may move the stamp and make requests itself, and so on to any depth;
a move of the stamp in the middle drops the cells of all the computations that are still going on.

`Memo.log` tells what has happened.  For every sequence of steps in which no key is requested while it
is being computed at the same stamp, `Memo.recalled_fresh_and_started_once` says two things about it:

* a value given without a computation is the result of one for the same key, which started at the
  present stamp and after the last invalidation;
* between two invalidations, at most one computation starts for a key at a stamp.

The invariant is `Memo.Consistent`.  It ties each cell to the computation that it was entered for:
a filled cell to one that has ended with the value, an empty one to one that is still going on.  So a
cell is never empty when its key is requested, and a cell that has been dropped meanwhile is told by the
generation of the cache, which changes together with its stamp (`Memo.Reaches`).
-/

import GroovyNew.Resolve.Cache
import Mathlib.Data.List.Nodup

namespace GroovyNew

variable {α : Type}

/-! ### Events -/

namespace CacheEvent

/-- The event is an invalidation. -/
def isInvalidated : CacheEvent α → Bool
  | .invalidated => true
  | _ => false

/-- The event is the end of the computation with the number. -/
def isEndOf (number : Nat) : CacheEvent α → Bool
  | .finished n _ => n == number
  | _ => false

/-- The events since the last invalidation, latest first. -/
def recent (log : List (CacheEvent α)) : List (CacheEvent α) := log.takeWhile (!·.isInvalidated)

theorem mem_of_mem_recent {e : CacheEvent α} {log : List (CacheEvent α)} (h : e ∈ recent log) :
    e ∈ log :=
  (List.takeWhile_sublist _).subset h

theorem recent_cons {e : CacheEvent α} (he : e.isInvalidated = false) (log : List (CacheEvent α)) :
    recent (e :: log) = e :: recent log := by
  simp [recent, he]

@[simp] theorem recent_invalidated (log : List (CacheEvent α)) :
    recent (.invalidated :: log) = [] := rfl

@[simp] theorem recent_started (r : CacheRun) (log : List (CacheEvent α)) :
    recent (.started r :: log) = .started r :: recent log := recent_cons rfl log

@[simp] theorem recent_finished (n : Nat) (v : α) (log : List (CacheEvent α)) :
    recent (.finished n v :: log) = .finished n v :: recent log := recent_cons rfl log

@[simp] theorem recent_recalled (key : CacheKey) (stamp : Nat) (v : α)
    (log : List (CacheEvent α)) :
    recent (.recalled key stamp v :: log) = .recalled key stamp v :: recent log :=
  recent_cons rfl log

/-- What an event owes to the events before it: a remembered value to a computation, and the start
of a computation to the lack of an earlier one. -/
def Warranted (before : List (CacheEvent α)) : CacheEvent α → Prop
  | .recalled key stamp v => ∃ r, .started r ∈ recent before ∧ .finished r.number v ∈ recent before ∧
      r.key = key ∧ r.stamp = stamp
  | .started r => ∀ r', .started r' ∈ recent before → r'.key = r.key → r'.stamp ≠ r.stamp
  | _ => True

/-- If an event is warranted and all before it are, all are. -/
theorem warranted_cons {e : CacheEvent α} {log : List (CacheEvent α)}
    (hlog : ∀ e' before, e' :: before <:+ log → Warranted before e') (he : Warranted log e) :
    ∀ e' before, e' :: before <:+ e :: log → Warranted before e' := by
  intro e' before hs
  rcases List.suffix_cons_iff.1 hs with hs | hs
  · obtain ⟨rfl, rfl⟩ := List.cons.inj hs
    exact he
  · exact hlog e' before hs

/-- What a log says about the cell of a computation: a filled one holds the result, and an empty one
has none yet. -/
def Backs (log : List (CacheEvent α)) (r : CacheRun) : Option α → Prop
  | some v => .finished r.number v ∈ recent log
  | none => ∀ v, .finished r.number v ∉ log

/-- Events other than an invalidation and the end of the computation change nothing for its cell. -/
theorem Backs.cons {e : CacheEvent α} {log : List (CacheEvent α)} {r : CacheRun} {o : Option α}
    (h : Backs log r o) (he : e.isInvalidated = false) (hr : e.isEndOf r.number = false) :
    Backs (e :: log) r o := by
  cases o with
  | some v =>
    rw [Backs, recent_cons he]
    exact List.mem_cons_of_mem e h
  | none =>
    intro v hv
    rcases List.mem_cons.1 hv with rfl | hv
    · simp [isEndOf] at hr
    · exact h v hv

end CacheEvent

/-! ### Steps -/

/-- What is done at a cache from outside. -/
inductive CacheStep (α : Type) where
  | request (key : CacheKey) (inner : Computation α)
  | get (key : CacheKey)
  | bump
  | invalidate

namespace Memo

/-- A step. -/
def perform (m : Memo α) : CacheStep α → Memo α
  | .request key inner => (m.request key inner).2
  | .get key => (m.get? key).2
  | .bump => m.bump
  | .invalidate => m.invalidate

/-- Steps, one after the other. -/
def play (m : Memo α) (steps : List (CacheStep α)) : Memo α := steps.foldl perform m

/-- The value of the key is being computed, by a computation that started at the present stamp. -/
def isComputing (m : Memo α) (key : CacheKey) : Bool :=
  m.runs.any fun r => r.key == key && r.stamp == m.stamp && !m.log.any (·.isEndOf r.number)

end Memo

/-- The computation never requests a key that is being computed at the same stamp. -/
def Computation.admissible : Computation α → Memo α → Bool
  | .done _, _ => true
  | .bump next, m => next.admissible m.bump
  | .request key inner next, m =>
    !m.isComputing key &&
      match m.get? key with
      | (some v, m) => (next v).admissible m
      | (none, m) =>
        inner.admissible (m.begin key) &&
          (next (inner.run (m.begin key)).1).admissible
            ((inner.run (m.begin key)).2.finish (m.nextRun key) m.cache.generation
              (inner.run (m.begin key)).1)

/-- The step never requests a key that is being computed at the same stamp. -/
def CacheStep.admissible (m : Memo α) : CacheStep α → Bool
  | .request key inner => (Computation.request key inner .done).admissible m
  | _ => true

/-- The steps never request a key that is being computed at the same stamp. -/
def Memo.admits (m : Memo α) : List (CacheStep α) → Bool
  | [] => true
  | step :: steps => step.admissible m && (m.perform step).admits steps

/-! ### The invariant -/

namespace Memo

open CacheEvent

/-- What holds of a cache and its log at every moment. -/
structure Consistent (m : Memo α) : Prop where
  stamp_le : m.cache.stamp ≤ m.stamp
  number_lt : ∀ r, .started r ∈ m.log → r.number < m.runs.length
  nodup : (m.runs.map (·.number)).Nodup
  ended : ∀ n v, .finished n v ∈ m.log → n < m.runs.length
  started_le : ∀ r, .started r ∈ recent m.log → r.stamp ≤ m.cache.stamp
  /-- A cell is that of a computation that started since the entries were last dropped. -/
  backed : ∀ key o, m.cache.cell? key = some o →
    ∃ r, .started r ∈ recent m.log ∧ r.key = key ∧ r.stamp = m.cache.stamp ∧ Backs m.log r o
  /-- A computation that started since the entries were last dropped has its cell. -/
  kept : ∀ r, .started r ∈ recent m.log → r.stamp = m.cache.stamp →
    (m.cache.cell? r.key).isSome
  warranted : ∀ e before, e :: before <:+ m.log → Warranted before e

/-- How the cache of a later moment relates to that of an earlier one, no invalidation being in
between: the log has grown, and the cells have been dropped exactly if the stamp has moved. -/
structure Reaches (m m' : Memo α) : Prop where
  recent : ∀ e ∈ recent m.log, e ∈ recent m'.log
  cache : m'.cache.generation = m.cache.generation ∧ m'.cache.stamp = m.cache.stamp ∨
    m.cache.generation < m'.cache.generation ∧ m.cache.stamp < m'.cache.stamp

theorem Reaches.refl (m : Memo α) : m.Reaches m := ⟨fun _ h => h, .inl ⟨rfl, rfl⟩⟩

theorem Reaches.trans {m₁ m₂ m₃ : Memo α} (h₁ : m₁.Reaches m₂) (h₂ : m₂.Reaches m₃) :
    m₁.Reaches m₃ := by
  refine ⟨fun e he => h₂.recent e (h₁.recent e he), ?_⟩
  have c₁ := h₁.cache
  have c₂ := h₂.cache
  omega

/-- The numbers tell computations apart. -/
theorem Consistent.eq_of_number_eq {m : Memo α} (h : m.Consistent) {r r' : CacheRun}
    (hr : .started r ∈ m.log) (hr' : .started r' ∈ m.log) (hn : r.number = r'.number) : r = r' :=
  List.inj_on_of_nodup_map h.nodup (mem_runs.2 hr) (mem_runs.2 hr') hn

theorem consistent_start (stamp : Nat) : (start stamp : Memo α).Consistent where
  stamp_le := Nat.le_refl _
  number_lt r h := by simp [start] at h
  nodup := List.nodup_nil
  ended n v h := by simp [start] at h
  started_le r h := by simp [start, CacheEvent.recent] at h
  backed key o h := by simp [start, ResolveCache.cell?] at h
  kept r h := by simp [start, CacheEvent.recent] at h
  warranted e before h := by simp [start] at h

theorem Consistent.bump {m : Memo α} (h : m.Consistent) : m.bump.Consistent :=
  { h with stamp_le := Nat.le_succ_of_le h.stamp_le }

theorem reaches_bump (m : Memo α) : m.Reaches m.bump := ⟨fun _ h => h, .inl ⟨rfl, rfl⟩⟩

theorem Consistent.invalidate {m : Memo α} (h : m.Consistent) : m.invalidate.Consistent where
  stamp_le := h.stamp_le
  number_lt r hr := h.number_lt r (by simpa [Memo.invalidate] using hr)
  nodup := h.nodup
  ended n v hn := h.ended n v (by simpa [Memo.invalidate] using hn)
  started_le r hr := by simp [Memo.invalidate] at hr
  backed key o ho := by simp [Memo.invalidate] at ho
  kept r hr := by simp [Memo.invalidate] at hr
  warranted := warranted_cons h.warranted trivial

theorem Consistent.sync {m : Memo α} (h : m.Consistent) : m.sync.Consistent := by
  by_cases hs : m.cache.stamp = m.stamp
  · have hm : m.sync = m := by simp [Memo.sync, ResolveCache.sync, hs]
    rwa [hm]
  · have hlt : m.cache.stamp < m.stamp := Nat.lt_of_le_of_ne h.stamp_le hs
    refine { h with stamp_le := ?_, started_le := ?_, backed := ?_, kept := ?_ }
    · simp [Memo.sync]
    · intro r hr
      have := h.started_le r hr
      simp only [Memo.sync, ResolveCache.stamp_sync]
      omega
    · intro key o ho
      simp [Memo.sync, ResolveCache.cell?_sync, hs] at ho
    · intro r hr hrs
      have := h.started_le r hr
      simp only [Memo.sync, ResolveCache.stamp_sync] at hrs
      omega

theorem Consistent.reaches_sync {m : Memo α} (h : m.Consistent) : m.Reaches m.sync := by
  refine ⟨fun _ he => he, ?_⟩
  have := h.stamp_le
  by_cases hs : m.cache.stamp = m.stamp
  · exact .inl (by simp [Memo.sync, ResolveCache.sync, hs])
  · refine .inr ?_
    simp only [Memo.sync, ResolveCache.sync, ResolveCache.drop, hs, if_false]
    omega

/-- Giving a remembered value, for which there is a computation, keeps the invariant. -/
theorem Consistent.recall {m : Memo α} (h : m.Consistent) {key : CacheKey} {stamp : Nat} {v : α}
    (hw : Warranted m.log (.recalled key stamp v)) :
    Consistent { m with log := .recalled key stamp v :: m.log } where
  stamp_le := h.stamp_le
  number_lt r hr := h.number_lt r (by simpa using hr)
  nodup := h.nodup
  ended n w hn := h.ended n w (by simpa using hn)
  started_le r hr := h.started_le r (by simpa using hr)
  backed key o ho := by
    obtain ⟨r, hr, hk, hs, hb⟩ := h.backed key o ho
    exact ⟨r, by simpa using hr, hk, hs, hb.cons rfl rfl⟩
  kept r hr := h.kept r (by simpa using hr)
  warranted := warranted_cons h.warranted hw

/-- A look-up that finds a value. -/
theorem get?_of_value {m : Memo α} {key : CacheKey} {v : α}
    (hv : m.sync.cache.value? key = some v) :
    m.get? key = (some v, { m.sync with log := .recalled key m.stamp v :: m.log }) := by
  simp only [get?, hv]

/-- A look-up that finds none. -/
theorem get?_of_none {m : Memo α} {key : CacheKey} (hv : m.sync.cache.value? key = none) :
    m.get? key = (none, m.sync) := by
  simp only [get?, hv]

theorem Consistent.get? {m : Memo α} (h : m.Consistent) (key : CacheKey) :
    (m.get? key).2.Consistent := by
  cases hv : m.sync.cache.value? key with
  | none =>
    rw [get?_of_none hv]
    exact h.sync
  | some v =>
    rw [get?_of_value hv]
    obtain ⟨r, hr, hk, hs, hb⟩ := h.sync.backed key _ (ResolveCache.value?_eq_some.1 hv)
    refine h.sync.recall ⟨r, hr, hb, hk, ?_⟩
    simpa [Memo.sync] using hs

theorem Consistent.reaches_get? {m : Memo α} (h : m.Consistent) (key : CacheKey) :
    m.Reaches (m.get? key).2 := by
  cases hv : m.sync.cache.value? key with
  | none =>
    rw [get?_of_none hv]
    exact h.reaches_sync
  | some v =>
    rw [get?_of_value hv]
    exact ⟨fun e he => by simp [he], h.reaches_sync.cache⟩

/-- Entering the cell of a key that has none keeps the invariant. -/
theorem Consistent.begin {m : Memo α} (h : m.Consistent) {key : CacheKey}
    (hs : m.cache.stamp = m.stamp) (hc : m.cache.cell? key = none) : (m.begin key).Consistent where
  stamp_le := by simpa [Memo.begin] using h.stamp_le
  number_lt r hr := by
    have hlen : (m.begin key).runs.length = m.runs.length + 1 := rfl
    rcases List.mem_cons.1 hr with hr | hr
    · obtain rfl := CacheEvent.started.inj hr
      simp [hlen, nextRun]
    · exact hlen ▸ Nat.lt_succ_of_lt (h.number_lt r hr)
  nodup := by
    have hmap : (m.begin key).runs.map (·.number) = m.runs.length :: m.runs.map (·.number) := rfl
    rw [hmap, List.nodup_cons]
    refine ⟨fun hmem => ?_, h.nodup⟩
    obtain ⟨r, hr, hn⟩ := List.mem_map.1 hmem
    exact absurd (h.number_lt r (mem_runs.1 hr)) (by omega)
  ended n v hn := Nat.lt_succ_of_lt (h.ended n v (by simpa [Memo.begin] using hn))
  started_le r hr := by
    simp only [Memo.begin, recent_started, List.mem_cons, CacheEvent.started.injEq,
      ResolveCache.stamp_enter] at hr ⊢
    rcases hr with rfl | hr
    · exact hs ▸ Nat.le_refl _
    · exact h.started_le r hr
  backed other o ho := by
    simp only [Memo.begin, ResolveCache.cell?_enter] at ho
    by_cases hk : other = key
    · have hv : m.cache.value? key = none := by simp [ResolveCache.value?, hc]
      rw [if_pos hk, hv] at ho
      obtain rfl := Option.some.inj ho
      refine ⟨m.nextRun key, by simp [Memo.begin], hk.symm, by simp [Memo.begin, nextRun, hs],
        fun v hv => ?_⟩
      have := h.ended _ v (by simpa [Memo.begin] using hv)
      simp [nextRun] at this
    · rw [if_neg hk] at ho
      obtain ⟨r, hr, hrk, hrs, hb⟩ := h.backed other o ho
      exact ⟨r, by simp [Memo.begin, hr], hrk, by simpa [Memo.begin] using hrs, hb.cons rfl rfl⟩
  kept r hr hrs := by
    simp only [Memo.begin, recent_started, List.mem_cons, CacheEvent.started.injEq,
      ResolveCache.stamp_enter, ResolveCache.cell?_enter] at hr hrs ⊢
    split
    · rfl
    · rcases hr with rfl | hr
      · rename_i hne
        exact absurd rfl hne
      · exact h.kept r hr hrs
  warranted := by
    refine warranted_cons h.warranted fun r' hr' hk hst => ?_
    -- an earlier computation at this stamp would have its cell
    have hkept := h.kept r' hr' (hst.trans hs.symm)
    rw [hk] at hkept
    simp [nextRun, hc] at hkept

theorem reaches_begin (m : Memo α) (key : CacheKey) : m.Reaches (m.begin key) :=
  ⟨fun e he => by simp [Memo.begin, he], .inl (by simp [Memo.begin])⟩

/-- The end of a computation changes nothing for the cell of another. -/
theorem Consistent.backs_finished {m : Memo α} (h : m.Consistent) {r r' : CacheRun}
    (hr : .started r ∈ CacheEvent.recent m.log) (hr' : .started r' ∈ CacheEvent.recent m.log)
    (hne : r' ≠ r) (v : α) {o : Option α} (hb : Backs m.log r' o) :
    Backs (.finished r.number v :: m.log) r' o := by
  have hn : r.number ≠ r'.number := fun hn =>
    hne (h.eq_of_number_eq (mem_of_mem_recent hr) (mem_of_mem_recent hr') hn).symm
  exact hb.cons rfl (by simp [isEndOf, hn])

/-- Ending a computation keeps the invariant, if the generation tells whether its cell has been
dropped. -/
theorem Consistent.finish {m : Memo α} (h : m.Consistent) {r : CacheRun} {generation : Nat} (v : α)
    (hr : .started r ∈ CacheEvent.recent m.log)
    (hg : m.cache.generation = generation ↔ m.cache.stamp = r.stamp) :
    (m.finish r generation v).Consistent where
  stamp_le := by
    simp only [Memo.finish]
    split <;> exact h.stamp_le
  number_lt r' hr' := h.number_lt r' (by simpa [Memo.finish] using hr')
  nodup := h.nodup
  ended n w hn := by
    simp only [Memo.finish, List.mem_cons, CacheEvent.finished.injEq] at hn
    rcases hn with ⟨rfl, -⟩ | hn
    · exact h.number_lt r (mem_of_mem_recent hr)
    · exact h.ended n w hn
  started_le r' hr' := by
    have := h.started_le r' (by simpa [Memo.finish] using hr')
    simp only [Memo.finish]
    split <;> exact this
  backed key o ho := by
    by_cases hgen : m.cache.generation = generation
    · have hs := hg.1 hgen
      simp only [Memo.finish, hgen, if_true, ResolveCache.cell?_fill] at ho ⊢
      by_cases hk : key = r.key
      · rw [if_pos hk] at ho
        obtain ⟨o', -, rfl⟩ := Option.map_eq_some_iff.1 ho
        exact ⟨r, by simp [hr], hk.symm, hs.symm, by simp [Backs]⟩
      · rw [if_neg hk] at ho
        obtain ⟨r', hr', hk', hs', hb⟩ := h.backed key o ho
        have hne : r' ≠ r := fun e => hk (by rw [← hk', e])
        exact ⟨r', by simp [hr'], hk', hs', h.backs_finished hr hr' hne v hb⟩
    · simp only [Memo.finish, hgen, if_false] at ho ⊢
      obtain ⟨r', hr', hk', hs', hb⟩ := h.backed key o ho
      have hne : r' ≠ r := fun e => hgen (hg.2 (by rw [← hs', e]))
      exact ⟨r', by simp [hr'], hk', hs', h.backs_finished hr hr' hne v hb⟩
  kept r' hr' hs' := by
    simp only [Memo.finish, recent_finished, List.mem_cons, reduceCtorEq, false_or] at hr' hs' ⊢
    by_cases hgen : m.cache.generation = generation
    · simp only [hgen, if_true, ResolveCache.stamp_fill, ResolveCache.cell?_fill] at hs' ⊢
      have := h.kept r' hr' hs'
      split
      · rename_i hk
        rw [hk] at this
        simpa using this
      · exact this
    · simp only [hgen, if_false] at hs' ⊢
      exact h.kept r' hr' hs'
  warranted := warranted_cons h.warranted trivial

theorem reaches_finish (m : Memo α) (r : CacheRun) (generation : Nat) (v : α) :
    m.Reaches (m.finish r generation v) := by
  refine ⟨fun e he => by simp [Memo.finish, he], .inl ?_⟩
  simp only [Memo.finish]
  split <;> exact ⟨rfl, rfl⟩

/-- A key without a value that is not being computed has no cell. -/
theorem Consistent.cell?_eq_none {m : Memo α} (h : m.Consistent) {key : CacheKey}
    (hv : m.sync.cache.value? key = none) (hn : m.isComputing key = false) :
    m.sync.cache.cell? key = none := by
  cases hc : m.sync.cache.cell? key with
  | none => rfl
  | some o =>
    cases o with
    | some v => rw [ResolveCache.value?_eq_some.2 hc] at hv; cases hv
    | none =>
      obtain ⟨r, hr, hk, hs, hb⟩ := h.sync.backed key none hc
      rw [Memo.sync, ResolveCache.stamp_sync] at hs
      have hrun : r ∈ m.runs := mem_runs.2 (mem_of_mem_recent hr)
      have hopen : m.log.any (·.isEndOf r.number) = false := by
        refine List.any_eq_false.2 fun e he hend => ?_
        cases e with
        | finished n v =>
          obtain rfl : n = r.number := by simpa [isEndOf] using hend
          exact hb v he
        | _ => simp [isEndOf] at hend
      have hcomp : m.isComputing key = true :=
        List.any_eq_true.2 ⟨r, hrun, by simp [hk, hs, hopen]⟩
      rw [hcomp] at hn
      cases hn

/-- After a computation that started in `m`, the generation tells whether the stamp of the cache has
moved. -/
theorem Reaches.generation_eq_iff {m m' : Memo α} (h : m.Reaches m') :
    m'.cache.generation = m.cache.generation ↔ m'.cache.stamp = m.cache.stamp := by
  have := h.cache
  omega

/-- **What a computation keeps.**  By induction on it: a request that finds no value enters a cell, and
the computation inside tells by its own induction hypothesis whether the cell is still there. -/
theorem Consistent.run (c : Computation α) {m : Memo α} (h : m.Consistent)
    (ha : c.admissible m = true) : (c.run m).2.Consistent ∧ m.Reaches (c.run m).2 := by
  induction c generalizing m with
  | done v => exact ⟨h, .refl m⟩
  | bump next ih =>
    obtain ⟨hc, hr⟩ := ih h.bump ha
    exact ⟨hc, (reaches_bump m).trans hr⟩
  | request key inner next ihInner ihNext =>
    rw [Computation.admissible, Bool.and_eq_true, Bool.not_eq_true'] at ha
    obtain ⟨hn, ha⟩ := ha
    have hget := h.get? key
    have hreach := h.reaches_get? key
    cases hv : m.sync.cache.value? key with
    | some v =>
      have hrun := get?_of_value hv
      rw [hrun] at hget hreach
      simp only [hrun] at ha
      simp only [Computation.run, hrun]
      obtain ⟨hc, hr⟩ := ihNext v hget ha
      exact ⟨hc, hreach.trans hr⟩
    | none =>
      have hrun := get?_of_none hv
      have hs : m.sync.cache.stamp = m.sync.stamp := ResolveCache.stamp_sync ..
      simp only [hrun, Bool.and_eq_true] at ha
      simp only [Computation.run, hrun]
      have hbegin := h.sync.begin hs (h.cell?_eq_none hv hn)
      obtain ⟨hc, hr⟩ := ihInner hbegin ha.1
      have hstarted : .started (m.sync.nextRun key) ∈
          CacheEvent.recent (inner.run (m.sync.begin key)).2.log :=
        hr.recent _ (by simp [Memo.begin])
      have hgen : (inner.run (m.sync.begin key)).2.cache.generation = m.sync.cache.generation ↔
          (inner.run (m.sync.begin key)).2.cache.stamp = (m.sync.nextRun key).stamp := by
        have := hr.generation_eq_iff
        simpa [Memo.begin, nextRun, hs] using this
      have hfinish := hc.finish (inner.run (m.sync.begin key)).1 hstarted hgen
      obtain ⟨hc', hr'⟩ := ihNext _ hfinish ha.2
      refine ⟨hc', ?_⟩
      exact h.reaches_sync.trans <| (reaches_begin _ _).trans <| hr.trans <|
        (reaches_finish _ _ _ _).trans hr'

/-- What a step keeps. -/
theorem Consistent.perform {m : Memo α} (h : m.Consistent) {step : CacheStep α}
    (ha : step.admissible m = true) : (m.perform step).Consistent := by
  cases step with
  | request key inner => exact (h.run _ ha).1
  | get key => exact h.get? key
  | bump => exact h.bump
  | invalidate => exact h.invalidate

/-- What steps keep. -/
theorem Consistent.play {m : Memo α} (h : m.Consistent) {steps : List (CacheStep α)}
    (ha : m.admits steps = true) : (m.play steps).Consistent := by
  induction steps generalizing m with
  | nil => exact h
  | cons step steps ih =>
    rw [admits, Bool.and_eq_true] at ha
    exact ih (h.perform ha.1) ha.2

/-- A value that a look-up finds has been computed for its key, from the present stamp on. -/
theorem Consistent.warranted_of_get? {m : Memo α} (h : m.Consistent) {key : CacheKey} {v : α}
    (hv : (m.get? key).1 = some v) : Warranted m.log (.recalled key m.stamp v) := by
  cases hc : m.sync.cache.value? key with
  | none =>
    rw [get?_of_none hc] at hv
    cases hv
  | some w =>
    have hget := h.get? key
    rw [get?_of_value hc] at hv hget
    obtain rfl := Option.some.inj hv
    exact hget.warranted _ _ (List.suffix_refl _)

/-- **A remembered value is fresh, and computed once.**  Start a cache at any stamp and take any steps
that never request a key while it is being computed at the same stamp.  Whenever a value is given
without a computation, by a look-up or by a request at any depth, a computation for that key has ended
with that value, and it started at the present stamp and since the last invalidation.  The same holds
of a value that is looked up after the steps.  Whenever a computation starts, none has started for the
same key at the same stamp since the last invalidation.  Computations have different numbers, so that
an end belongs to one start. -/
theorem recalled_fresh_and_started_once (stamp : Nat) (steps : List (CacheStep α))
    (ha : (start stamp : Memo α).admits steps = true) :
    (∀ key now v before,
      .recalled key now v :: before <:+ ((start stamp : Memo α).play steps).log →
        ∃ r, .started r ∈ CacheEvent.recent before ∧ .finished r.number v ∈ CacheEvent.recent before ∧
          r.key = key ∧ r.stamp = now) ∧
    (∀ key v, (((start stamp : Memo α).play steps).get? key).1 = some v →
      ∃ r, .started r ∈ CacheEvent.recent ((start stamp : Memo α).play steps).log ∧
        .finished r.number v ∈ CacheEvent.recent ((start stamp : Memo α).play steps).log ∧
          r.key = key ∧ r.stamp = ((start stamp : Memo α).play steps).stamp) ∧
    (∀ r before, .started r :: before <:+ ((start stamp : Memo α).play steps).log →
      ∀ r', .started r' ∈ CacheEvent.recent before → r'.key = r.key → r'.stamp ≠ r.stamp) ∧
    (((start stamp : Memo α).play steps).runs.map (·.number)).Nodup := by
  have h := (consistent_start stamp).play ha
  refine ⟨fun key now v before hs => ?_, fun key v hv => ?_, fun r before hs => ?_, h.nodup⟩
  · exact h.warranted (.recalled key now v) before hs
  · exact h.warranted_of_get? hv
  · exact h.warranted (.started r) before hs

/-- A computation that moves the stamp and then computes the value of another key, and a look-up of that
value. -/
def overtaking : List (CacheStep Nat) :=
  [.request ⟨1, false⟩ (.bump (.request ⟨2, false⟩ (.done 5) fun v => .done (v + 1))),
    .get ⟨2, false⟩]

/-- The value that `overtaking` looks up is the one computed for its key. -/
theorem overtaking_recalled_fresh : (start 0 : Memo Nat).admits overtaking = true ∧
    ∃ r, .started r ∈ CacheEvent.recent ((start 0 : Memo Nat).play overtaking).log ∧
      .finished r.number 5 ∈ CacheEvent.recent ((start 0 : Memo Nat).play overtaking).log ∧
        r.key = ⟨2, false⟩ ∧ r.stamp = ((start 0 : Memo Nat).play overtaking).stamp :=
  have ha : (start 0 : Memo Nat).admits overtaking = true := by decide
  ⟨ha, (recalled_fresh_and_started_once 0 overtaking ha).2.1 ⟨2, false⟩ 5 (by decide)⟩

end Memo
end GroovyNew
