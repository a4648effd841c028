/-
# Remembering results until the next edit

`ResolveCache` remembers one value for each call site and mode.  It knows the modification stamp at
which its values were computed; the first access at another stamp drops them all.

A value may be computed while another one is.  The cell of a key is entered empty before its value
is computed, so that it counts as an entry, and filled afterwards.  Entries dropped in between take
the cell with them: `generation` counts how often the table was dropped, and a value is filled in
only if it has not changed since the cell was entered.

`Computation` is a computation that reads the cache it runs under, and may move the stamp;
`Memo.request` runs one unless the value is remembered.  `Memo.log` tells which computations have
started and ended, and which values were given without one.
-/

import GroovyNew.Syntax.Basic

namespace GroovyNew

/-- What a value is remembered for: a call site, complete or not. -/
structure CacheKey where
  site : CallSiteId
  incomplete : Bool
  deriving DecidableEq, Inhabited, Repr

/-- Remembered values; a cell whose value is being computed is empty. -/
structure ResolveCache (α : Type) where
  /-- The stamp at which the values were computed. -/
  stamp : Nat
  /-- How often the table was dropped. -/
  generation : Nat := 0
  cells : List (CacheKey × Option α) := []
  deriving Inhabited, Repr

namespace ResolveCache

variable {α : Type}

/-- The number of cells. -/
def size (c : ResolveCache α) : Nat := c.cells.length

/-- There is no cell. -/
def isEmpty (c : ResolveCache α) : Bool := c.cells.isEmpty

/-- The cache without cells. -/
def drop (c : ResolveCache α) : ResolveCache α :=
  { c with generation := c.generation + 1, cells := [] }

/-- The cache at the stamp `now`: values of another stamp are dropped. -/
def sync (c : ResolveCache α) (now : Nat) : ResolveCache α :=
  if c.stamp = now then c else { c.drop with stamp := now }

/-- The cell of a key. -/
def cell? (c : ResolveCache α) (key : CacheKey) : Option (Option α) := c.cells.lookup key

/-- The value in the cell of a key. -/
def value? (c : ResolveCache α) (key : CacheKey) : Option α := (c.cell? key).join

/-- The value remembered for a key at the stamp `now`. -/
def get? (c : ResolveCache α) (now : Nat) (key : CacheKey) : Option α × ResolveCache α :=
  ((c.sync now).value? key, c.sync now)

/-- Enters an empty cell for a key, unless there is one. -/
def enter (c : ResolveCache α) (key : CacheKey) : ResolveCache α :=
  if (c.cell? key).isSome then c else { c with cells := c.cells ++ [(key, none)] }

/-- Fills the cell of a key. -/
def fill (c : ResolveCache α) (key : CacheKey) (v : α) : ResolveCache α :=
  { c with cells := c.cells.map fun e => if e.1 = key then (key, some v) else e }

/-- The value remembered for a key at the stamp `now`; else the computed one, remembered from then
on.  The computation does not touch the cache. -/
def getOrCompute (c : ResolveCache α) (now : Nat) (key : CacheKey) (compute : Unit → α) :
    α × ResolveCache α :=
  match (c.sync now).value? key with
  | some v => (v, c.sync now)
  | none =>
    let v := compute ()
    (v, ((c.sync now).enter key).fill key v)

/-! ### What the operations do to the cells -/

@[simp] theorem cell?_drop (c : ResolveCache α) (key : CacheKey) : c.drop.cell? key = none := rfl

@[simp] theorem stamp_sync (c : ResolveCache α) (now : Nat) : (c.sync now).stamp = now := by
  unfold sync; split <;> simp_all

theorem cell?_sync (c : ResolveCache α) (now : Nat) (key : CacheKey) :
    (c.sync now).cell? key = if c.stamp = now then c.cell? key else none := by
  unfold sync; split <;> rfl

@[simp] theorem stamp_enter (c : ResolveCache α) (key : CacheKey) :
    (c.enter key).stamp = c.stamp := by
  unfold enter; split <;> rfl

@[simp] theorem generation_enter (c : ResolveCache α) (key : CacheKey) :
    (c.enter key).generation = c.generation := by
  unfold enter; split <;> rfl

theorem cell?_enter (c : ResolveCache α) (key other : CacheKey) :
    (c.enter key).cell? other =
      if other = key then some (c.value? key) else c.cell? other := by
  unfold enter value?
  cases h : c.cell? key with
  | some o => by_cases ho : other = key <;> simp [h, ho]
  | none =>
    have happ : (c.cells ++ [(key, none)]).lookup other =
        (c.cell? other).or (if other = key then some none else none) := by
      rw [List.lookup_append]
      by_cases ho : other = key <;> simp [cell?, List.lookup_cons, ho, beq_false_of_ne]
    change (c.cells ++ [(key, none)]).lookup other = _
    rw [happ]
    by_cases ho : other = key
    · subst ho; simp [h]
    · simp [ho]

@[simp] theorem stamp_fill (c : ResolveCache α) (key : CacheKey) (v : α) :
    (c.fill key v).stamp = c.stamp := rfl

@[simp] theorem generation_fill (c : ResolveCache α) (key : CacheKey) (v : α) :
    (c.fill key v).generation = c.generation := rfl

theorem cell?_fill (c : ResolveCache α) (key : CacheKey) (v : α) (other : CacheKey) :
    (c.fill key v).cell? other =
      if other = key then (c.cell? key).map fun _ => some v else c.cell? other := by
  simp only [cell?, fill]
  induction c.cells with
  | nil => simp
  | cons e es ih =>
    obtain ⟨k, o⟩ := e
    by_cases hk : k = key <;> by_cases ho : other = key
    · subst hk ho; simp
    · subst hk; simp [List.lookup_cons, beq_false_of_ne ho, ih, ho]
    · subst ho; simp [List.lookup_cons, hk, beq_false_of_ne (Ne.symm hk), ih]
    · by_cases hko : other = k
      · subst hko; simp [hk]
      · simp [List.lookup_cons, hk, ho, beq_false_of_ne hko, ih]

theorem value?_eq_some {c : ResolveCache α} {key : CacheKey} {v : α} :
    c.value? key = some v ↔ c.cell? key = some (some v) := by
  simp [value?, Option.join_eq_some_iff]

theorem value?_sync (c : ResolveCache α) (now : Nat) (key : CacheKey) :
    (c.sync now).value? key = if c.stamp = now then c.value? key else none := by
  unfold value?; rw [cell?_sync]; split <;> rfl

@[simp] theorem stamp_getOrCompute (c : ResolveCache α) (now : Nat) (key : CacheKey)
    (compute : Unit → α) : (c.getOrCompute now key compute).2.stamp = now := by
  unfold getOrCompute; split <;> simp

theorem fst_getOrCompute (c : ResolveCache α) (now : Nat) (key : CacheKey) (compute : Unit → α) :
    (c.getOrCompute now key compute).1 = ((c.sync now).value? key).getD (compute ()) := by
  unfold getOrCompute; split <;> simp_all

theorem value?_getOrCompute (c : ResolveCache α) (now : Nat) (key : CacheKey)
    (compute : Unit → α) (other : CacheKey) :
    (c.getOrCompute now key compute).2.value? other =
      if other = key then some (c.getOrCompute now key compute).1
      else (c.sync now).value? other := by
  unfold getOrCompute
  split
  · rename_i v hv
    by_cases ho : other = key
    · simp [ho, hv]
    · simp [ho]
  · by_cases ho : other = key <;> simp [value?, cell?_fill, cell?_enter, ho]

end ResolveCache

/-! ### Computations that use the cache themselves -/

/-- A computation that may move the stamp and ask the cache for values. -/
inductive Computation (α : Type) where
  /-- The value. -/
  | done (v : α)
  /-- Moves the stamp and goes on. -/
  | bump (next : Computation α)
  /-- Asks for the value of a key, which `inner` computes, and goes on with it. -/
  | request (key : CacheKey) (inner : Computation α) (next : α → Computation α)

/-- A computation of a value: its number in order of starting, its key, and the stamp at which it
started. -/
structure CacheRun where
  number : Nat
  key : CacheKey
  stamp : Nat
  deriving DecidableEq, Inhabited, Repr

/-- What happens at a cache. -/
inductive CacheEvent (α : Type) where
  /-- A computation starts. -/
  | started (r : CacheRun)
  /-- The computation with the number ends with a value. -/
  | finished (number : Nat) (v : α)
  /-- A remembered value is given at a stamp. -/
  | recalled (key : CacheKey) (stamp : Nat) (v : α)
  /-- The entries are dropped, whatever the stamp. -/
  | invalidated
  deriving DecidableEq, Repr

/-- The computation that an event starts. -/
def CacheEvent.run? {α : Type} : CacheEvent α → Option CacheRun
  | .started r => some r
  | _ => none

/-- A stamp, a cache that follows it, and what has happened so far, latest first. -/
structure Memo (α : Type) where
  stamp : Nat := 0
  cache : ResolveCache α
  log : List (CacheEvent α) := []

namespace Memo

variable {α : Type}

/-- An empty cache that follows the stamp from `stamp` on. -/
def start (stamp : Nat) : Memo α := { stamp, cache := { stamp } }

/-- The computations started so far, latest first. -/
def runs (m : Memo α) : List CacheRun := m.log.filterMap CacheEvent.run?

@[simp] theorem mem_runs {m : Memo α} {r : CacheRun} : r ∈ m.runs ↔ .started r ∈ m.log := by
  simp only [runs, List.mem_filterMap]
  constructor
  · rintro ⟨e, he, hr⟩
    cases e <;> simp_all [CacheEvent.run?]
  · exact fun h => ⟨_, h, rfl⟩

/-- Moves the stamp. -/
def bump (m : Memo α) : Memo α := { m with stamp := m.stamp + 1 }

/-- Drops the entries of the cache. -/
def invalidate (m : Memo α) : Memo α :=
  { m with cache := m.cache.drop, log := .invalidated :: m.log }

/-- Drops the entries if the stamp has moved. -/
def sync (m : Memo α) : Memo α := { m with cache := m.cache.sync m.stamp }

/-- The value remembered for a key. -/
def get? (m : Memo α) (key : CacheKey) : Option α × Memo α :=
  match m.sync.cache.value? key with
  | some v => (some v, { m.sync with log := .recalled key m.stamp v :: m.log })
  | none => (none, m.sync)

/-- The computation for a key that starts next. -/
def nextRun (m : Memo α) (key : CacheKey) : CacheRun := ⟨m.runs.length, key, m.stamp⟩

/-- Enters a cell for a key, whose value begins to be computed. -/
def begin (m : Memo α) (key : CacheKey) : Memo α :=
  { m with cache := m.cache.enter key, log := .started (m.nextRun key) :: m.log }

/-- Ends a computation, whose cell was entered in the given generation.  The cell is filled unless
it has been dropped since. -/
def finish (m : Memo α) (r : CacheRun) (generation : Nat) (v : α) : Memo α :=
  { m with
    cache := if m.cache.generation = generation then m.cache.fill r.key v else m.cache
    log := .finished r.number v :: m.log }

end Memo

namespace Computation

variable {α : Type}

/-- Runs a computation. -/
def run : Computation α → Memo α → α × Memo α
  | .done v, m => (v, m)
  | .bump next, m => next.run m.bump
  | .request key inner next, m =>
    match m.get? key with
    | (some v, m) => (next v).run m
    | (none, m) =>
      let (v, after) := inner.run (m.begin key)
      (next v).run (after.finish (m.nextRun key) m.cache.generation v)

end Computation

/-- The value of a key: the remembered one, else the one that `inner` computes. -/
def Memo.request {α : Type} (m : Memo α) (key : CacheKey) (inner : Computation α) : α × Memo α :=
  (Computation.request key inner .done).run m

/-- A computation that does not touch the cache is that of `getOrCompute`. -/
theorem Memo.request_done {α : Type} (m : Memo α) (key : CacheKey) (v : α) :
    (m.request key (.done v)).1 = (m.cache.getOrCompute m.stamp key fun _ => v).1 ∧
      (m.request key (.done v)).2.cache = (m.cache.getOrCompute m.stamp key fun _ => v).2 := by
  cases h : (m.cache.sync m.stamp).value? key <;>
    simp [Memo.request, Computation.run, Memo.get?, Memo.sync, ResolveCache.getOrCompute, h,
      Memo.begin, Memo.finish, Memo.nextRun]

end GroovyNew
