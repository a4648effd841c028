/-
# Class references are read back from their text

A class reference is what a type writes that is a name, perhaps with type arguments that are references in
turn.  The text of the reference is the text of that type (`TypeRef.IsSourceShaped.toText_ofType`), and
type texts are read back.  So a reference that has been read from a text is read back from its own text
(`CodeReference.ofText_toText`).
-/

import GroovyNew.CodeReference
import GroovyNew.Proofs.TypeRef.RoundTrip

namespace GroovyNew

namespace CodeReference

theorem ofTypes_cons_eq_ok {t : TypeRef} {ts : List TypeRef} {rs : List CodeReference}
    (h : ofTypes (t :: ts) = .ok rs) :
    ∃ r rest, ofType t = .ok r ∧ ofTypes ts = .ok rest ∧ rs = r :: rest := by
  rw [ofTypes] at h
  split at h
  · cases h
  · rename_i r hr
    split at h
    · cases h
    · rename_i rest hrest
      obtain rfl := Except.ok.inj h
      exact ⟨r, rest, hr, hrest, rfl⟩

/-- References written by types have the texts of these types, if each has. -/
theorem argsText_ofTypes {ts : List TypeRef} {rs : List CodeReference} (h : ofTypes ts = .ok rs)
    (ih : ∀ t ∈ ts, ∀ r, ofType t = .ok r → r.toText = t.toText) :
    argsText rs = TypeRef.argsText ts := by
  induction ts generalizing rs with
  | nil =>
    obtain rfl : [] = rs := Except.ok.inj h
    rfl
  | cons t ts ihs =>
    obtain ⟨ht, hts⟩ := List.forall_mem_cons.1 ih
    obtain ⟨r, rest, hr, hrest, rfl⟩ := ofTypes_cons_eq_ok h
    cases ts with
    | nil =>
      obtain rfl : [] = rest := Except.ok.inj hrest
      rw [argsText, TypeRef.argsText, ht r hr]
    | cons t' ts =>
      have htail := ihs hrest hts
      obtain ⟨r', rest, -, -, rfl⟩ := ofTypes_cons_eq_ok hrest
      rw [argsText, TypeRef.argsText, ht r hr, htail]
      all_goals simp

/-- A name writes the reference of that name. -/
theorem ofType_of_isName {t : TypeRef} (h : t.IsName) :
    ofType t = .ok ⟨t.toText, []⟩ := by
  cases t with
  | raw name => rw [ofType, TypeRef.toText]
  | id name => rw [ofType, TypeRef.toText]
  | _ => exact h.elim

end CodeReference

/-- A reference has the text of the type that writes it. -/
theorem TypeRef.IsSourceShaped.toText_ofType {t : TypeRef} (h : t.IsSourceShaped) :
    ∀ r, CodeReference.ofType t = .ok r → r.toText = t.toText := by
  induction h with
  | raw mem =>
    intro r hr
    obtain rfl := Except.ok.inj hr
    rfl
  | id dotted not_mem =>
    intro r hr
    obtain rfl := Except.ok.inj hr
    rfl
  | @generic base args base_shaped base_name args_ne_nil args_shaped ih_base ih_args =>
    intro r hr
    rw [CodeReference.ofType, CodeReference.ofType_of_isName base_name] at hr
    obtain ⟨t, ts, rfl⟩ := List.exists_cons_of_ne_nil args_ne_nil
    cases hargs : CodeReference.ofTypes (t :: ts) with
    | error e =>
      rw [hargs] at hr
      cases hr
    | ok rs =>
      rw [hargs] at hr
      obtain rfl := Except.ok.inj hr
      have htexts := CodeReference.argsText_ofTypes hargs ih_args
      obtain ⟨r, rest, -, -, rfl⟩ := CodeReference.ofTypes_cons_eq_ok hargs
      rw [CodeReference.toText, htexts, TypeRef.toText]
      simp
  | array element_shaped element_flat pos ih => exact fun r hr => by cases hr
  | unbounded => exact fun r hr => by cases hr
  | bounded isUpper bound_shaped ih => exact fun r hr => by cases hr

/-- **A class reference that a text writes is written by its own text.** -/
theorem CodeReference.ofText_toText {text : String} {r : CodeReference} (h : ofText text = .ok r) :
    ofText r.toText = .ok r := by
  unfold ofText at h
  cases ht : TypeRef.ofText text with
  | error e =>
    rw [ht] at h
    cases h
  | ok t =>
    rw [ht] at h
    have hshaped : t.IsSourceShaped := TypeRef.isSourceShaped_of_ofText_eq_ok ht
    rw [ofText, hshaped.toText_ofType r h, TypeRef.IsSourceShaped.ofText_toText hshaped]
    exact h

end GroovyNew
