/-
# What bindings bind

Bindings made one after the other are looked up by the last one of a name.  For distinct names they are
simply the list of what was bound (`Bindings.insertAll_of_nodup`); so type parameters of distinct names are
bound to the type arguments at their places (`Bindings.ofParameters_of_nodup`).

A property of all types that names are bound to (`Bindings.Each`) is kept by a binding to a type that has
it, and so holds of the bindings of type parameters to arguments that have it.
-/

import GroovyNew.TypeRef.Bindings
import Mathlib.Data.List.Nodup

namespace GroovyNew
namespace Bindings

variable {s : Bindings} {names : List String} {args : List TypeRef}

/-! ### Distinct names -/

theorem insertEntry_of_not_mem {name : String} (t : TypeRef) {es : List (String × TypeRef)}
    (h : name ∉ es.map (·.1)) : insertEntry name t es = es ++ [(name, t)] := by
  induction es with
  | nil => rfl
  | cons e es ih =>
    obtain ⟨n, u⟩ := e
    rw [List.map_cons, List.mem_cons, not_or] at h
    rw [insertEntry, if_neg (Ne.symm h.1), ih h.2, List.cons_append]

/-- New names are bound at the end. -/
theorem insertAll_of_nodup {es : List (String × TypeRef)}
    (hn : ((s.entries ++ es).map (·.1)).Nodup) : s.insertAll es = ⟨s.entries ++ es⟩ := by
  induction es generalizing s with
  | nil => rw [List.append_nil]; rfl
  | cons e es ih =>
    obtain ⟨name, t⟩ := e
    have hname : name ∉ s.entries.map (·.1) := by
      rw [List.map_append, List.map_cons] at hn
      exact fun hmem => (List.nodup_append.1 hn).2.2 name hmem name List.mem_cons_self rfl
    have hentries : (s.insert name t).entries = s.entries ++ [(name, t)] :=
      insertEntry_of_not_mem t hname
    have happend : (s.insert name t).entries ++ es = s.entries ++ (name, t) :: es := by
      rw [hentries, List.append_assoc, List.singleton_append]
    rw [← happend] at hn ⊢
    exact ih hn

theorem map_fst_zip_sublist (names : List String) (args : List TypeRef) :
    ((names.zip args).map (·.1)).Sublist names := by
  induction names generalizing args with
  | nil => simp
  | cons name names ih =>
    cases args with
    | nil => simp
    | cons a args => simpa using ih args

/-- Parameters of distinct names are bound to the arguments at their places, as far as both lists reach. -/
theorem ofParameters_of_nodup (hn : names.Nodup) (args : List TypeRef) :
    ofParameters names args = ⟨names.zip args⟩ :=
  insertAll_of_nodup (hn.sublist (map_fst_zip_sublist names args))

/-- The binding of the parameter at a place. -/
theorem lookup_zip (hn : names.Nodup) {i : Nat} {name : String} (hi : names[i]? = some name) :
    (names.zip args).lookup name = args[i]? := by
  induction names generalizing args i with
  | nil => cases hi
  | cons first names ih =>
    rw [List.nodup_cons] at hn
    cases args with
    | nil => rfl
    | cons a args =>
      cases i with
      | zero =>
        obtain rfl := Option.some.inj hi
        simp
      | succ i =>
        rw [List.getElem?_cons_succ] at hi
        have hne : name ≠ first := fun he => hn.1 (he ▸ List.mem_of_getElem? hi)
        rw [List.zip_cons_cons, List.lookup_cons, beq_false_of_ne hne, List.getElem?_cons_succ]
        exact ih hn.2 hi

/-! ### A property of all that is bound -/

variable {P : TypeRef → Prop}

/-- Names are bound to types that have the property. -/
def Each (P : TypeRef → Prop) (s : Bindings) : Prop := ∀ name t, s.get? name = some t → P t

theorem each_empty : empty.Each P := fun name t h => by
  rw [get?_empty] at h
  cases h

theorem Each.insert (h : s.Each P) (name : String) {t : TypeRef} (ht : P t) :
    (s.insert name t).Each P := fun other u hu => by
  rw [get?_insert] at hu
  split at hu
  · exact Option.some.inj hu ▸ ht
  · exact h other u hu

theorem Each.insertAll (h : s.Each P) {es : List (String × TypeRef)} (hes : ∀ e ∈ es, P e.2) :
    (s.insertAll es).Each P := by
  unfold Bindings.insertAll
  induction es generalizing s with
  | nil => exact h
  | cons e es ih =>
    rw [List.forall_mem_cons] at hes
    exact ih (h.insert e.1 hes.1) hes.2

/-- Arguments that have the property are bound to the parameters. -/
theorem each_ofParameters (names : List String) (h : ∀ t ∈ args, P t) : (ofParameters names args).Each P :=
  each_empty.insertAll fun _ he => h _ (List.of_mem_zip he).2

theorem Each.getD (h : s.Each P) (name : String) {t : TypeRef} (ht : P t) :
    P ((s.get? name).getD t) := by
  cases hs : s.get? name with
  | none => exact ht
  | some u => exact h name u hs

end Bindings
end GroovyNew
