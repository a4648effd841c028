/-
# What a reader can yield

Readers of expressions draw ids for expressions that are written without one.  Ids are drawn in ascending
order, and an id can be written as long as it is below `Reading.idBound`.  So a property that needs ids
that can be written holds of all that is read, if the last id drawn can be written: this is
`Reading.Ensures`.

The bound is known at the end of a reading only.  A reader that goes on with what another one has read
therefore ensures a property *if* the other one has ensured its own (`Reading.Ensures.bind`).  What is
decoded without drawing ids may be used at once (`Reading.Ensures.lift_bind`).
-/

import GroovyNew.Syntax.Json
import Mathlib.Data.Option.Basic

namespace GroovyNew
namespace Reading

variable {α β : Type} {P : α → Prop} {Q : β → Prop}

/-- Ids below this bound can be written. -/
def idBound : Nat := Nat.pow 2 32

/-- The reader draws ids in ascending order, and what it yields has the property if all of them can be
written. -/
def Ensures (r : Reading α) (P : α → Prop) : Prop :=
  ∀ next a next', r.run next = some (a, next') → next ≤ next' ∧ (next' ≤ idBound → P a)

/-! ### Rules -/

theorem Ensures.mono {P' : α → Prop} {r : Reading α} (h : r.Ensures P) (hP : ∀ a, P a → P' a) :
    r.Ensures P' := fun next a next' hr =>
  ⟨(h next a next' hr).1, fun hn => hP a ((h next a next' hr).2 hn)⟩

theorem ensures_pure {a : α} (h : P a) : (pure a : Reading α).Ensures P := by
  intro next b next' hr
  obtain ⟨rfl, rfl⟩ := Prod.mk.inj (Option.some.inj hr)
  exact ⟨Nat.le_refl _, fun _ => h⟩

theorem ensures_failure : (failure : Reading α).Ensures P := by
  intro next b next' hr
  cases hr

/-- A drawn id can be written if the next one does not exceed the bound. -/
theorem ensures_fresh : fresh.Ensures (· < idBound) := by
  intro next id next' hr
  obtain ⟨rfl, rfl⟩ := Prod.mk.inj (Option.some.inj hr)
  exact ⟨Nat.le_succ _, fun hn => hn⟩

theorem Ensures.bind {r : Reading α} {f : α → Reading β} (hr : r.Ensures P)
    (hf : ∀ a, (f a).Ensures fun b => P a → Q b) : (r >>= f).Ensures Q := by
  intro next b next'' h
  rw [StateT.run_bind] at h
  obtain ⟨⟨a, next'⟩, hra, hfb⟩ := Option.bind_eq_some_iff.1 h
  obtain ⟨hle, ha⟩ := hr next a next' hra
  obtain ⟨hle', hb⟩ := hf a next' b next'' hfb
  exact ⟨Nat.le_trans hle hle', fun hn => hb hn (ha (Nat.le_trans hle' hn))⟩

theorem Ensures.map {r : Reading α} {f : α → β} (hr : r.Ensures P) (hf : ∀ a, P a → Q (f a)) :
    (f <$> r).Ensures Q := by
  rw [map_eq_pure_bind]
  exact hr.bind fun a => ensures_pure (hf a)

/-- A value that is decoded without drawing ids. -/
@[simp] theorem lift_some (a : α) : (liftM (some a) : Reading α) = pure a := rfl

theorem Ensures.lift_bind {o : Option α} {f : α → Reading β}
    (h : ∀ a, o = some a → (f a).Ensures Q) : ((liftM o : Reading α) >>= f).Ensures Q := by
  cases o with
  | none =>
    intro next b next' hr
    cases hr
  | some a =>
    rw [lift_some, pure_bind]
    exact h a rfl

theorem Ensures.lift_map {o : Option α} {f : α → β} (h : ∀ a, o = some a → Q (f a)) :
    (f <$> (liftM o : Reading α)).Ensures Q := by
  rw [map_eq_pure_bind]
  exact Ensures.lift_bind fun a ha => ensures_pure (h a ha)

theorem Ensures.guard_bind {c : Prop} [Decidable c] {r : Reading β} (h : c → r.Ensures Q) :
    ((guard c : Reading Unit) >>= fun _ => r).Ensures Q := by
  by_cases hc : c
  · rw [guard, if_pos hc, pure_bind]
    exact h hc
  · rw [guard, if_neg hc]
    intro next b next' hr
    cases hr

/-- A reader for each item of a list. -/
theorem Ensures.mapM {f : Json → Reading α} {vs : List Json} (h : ∀ v ∈ vs, (f v).Ensures P) :
    (vs.mapM f).Ensures fun as => ∀ a ∈ as, P a := by
  induction vs with
  | nil => exact ensures_pure fun _ ha => absurd ha List.not_mem_nil
  | cons v vs ih =>
    obtain ⟨hv, hvs⟩ := List.forall_mem_cons.1 h
    rw [List.mapM_cons]
    exact hv.bind fun a => (ih hvs).bind fun as => ensures_pure fun has ha =>
      List.forall_mem_cons.2 ⟨ha, has⟩

/-- Reading undoes writing for a list if it does for each item. -/
theorem mapM_map_eq_pure {encode : α → Json} {read : Json → Reading α} {items : List α}
    (h : ∀ a ∈ items, read (encode a) = pure a) : (items.map encode).mapM read = pure items := by
  induction items with
  | nil => rfl
  | cons a items ih =>
    obtain ⟨ha, hitems⟩ := List.forall_mem_cons.1 h
    rw [List.map_cons, List.mapM_cons, ha, ih hitems, pure_bind, pure_bind]

end Reading
end GroovyNew
