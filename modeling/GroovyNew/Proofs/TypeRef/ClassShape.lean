/-
# Class references are the class-shaped type texts

A class reference is written like a type, but has no arrays and no wildcards, at any depth: as a whole, among
the type arguments, or inside them (`TypeRef.IsClassShaped`, by the parts of a type, `TypeRef.Within`).
`CodeReference.ofText_classShaped` says that the texts of such types are the texts of references, that a
reference has the text of the type that it is read as, and that it is read back from this text.

A reference does not tell a primitive from a class, since it keeps names alone.  Nothing is lost by that: the
name tells which of them it is.
-/

import GroovyNew.Proofs.TypeRef.Parts
import GroovyNew.Proofs.TypeRef.References

namespace GroovyNew

/-! ### Types without arrays and wildcards -/

namespace TypeRef

/-- An array or a wildcard. -/
def IsArrayOrWildcard : TypeRef → Prop
  | .array .. | .wildcard .. => True
  | _ => False

/-- No array and no wildcard occurs in the type, at any depth. -/
def IsClassShaped (t : TypeRef) : Prop := ∀ s : TypeRef, s.Within t → ¬s.IsArrayOrWildcard

theorem IsClassShaped.not_isArrayOrWildcard {t : TypeRef} (h : t.IsClassShaped) : ¬t.IsArrayOrWildcard :=
  h t (.self t)

theorem IsName.isClassShaped {t : TypeRef} (h : t.IsName) : t.IsClassShaped := by
  cases t with
  | raw name | id name =>
    intro s hs
    cases hs
    exact fun h => h
  | _ => exact h.elim

/-- A generic type is class shaped exactly if its parts are. -/
theorem isClassShaped_generic_iff {base : TypeRef} {args : List TypeRef} :
    (generic base args).IsClassShaped ↔ base.IsClassShaped ∧ ∀ arg ∈ args, arg.IsClassShaped := by
  constructor
  · intro h
    exact ⟨fun s hs => h s (.base hs), fun arg harg s hs => h s (.arg harg hs)⟩
  · rintro ⟨hbase, hargs⟩ s hs
    cases hs with
    | self => exact fun h => h
    | base hs => exact hbase s hs
    | arg harg hs => exact hargs _ harg s hs

end TypeRef

/-! ### The types that references are read as -/

/-- What fails gives nothing. -/
theorem not_exists_eq_ok {ε α : Type} {x : Except ε α} {e : ε} (h : x = .error e) :
    ¬∃ a, x = .ok a := by
  rintro ⟨a, ha⟩
  rw [h] at ha
  cases ha

/-- Types write references exactly if each of them does. -/
theorem CodeReference.exists_ofTypes_eq_ok_iff {ts : List TypeRef} :
    (∃ rs, ofTypes ts = .ok rs) ↔ ∀ t ∈ ts, ∃ r, ofType t = .ok r := by
  induction ts with
  | nil => exact ⟨fun _ _ ht => absurd ht List.not_mem_nil, fun _ => ⟨[], rfl⟩⟩
  | cons t ts ih =>
    rw [List.forall_mem_cons, ← ih]
    constructor
    · rintro ⟨rs, hrs⟩
      obtain ⟨r, rest, hr, hrest, -⟩ := ofTypes_cons_eq_ok hrs
      exact ⟨⟨r, hr⟩, rest, hrest⟩
    · rintro ⟨⟨r, hr⟩, rest, hrest⟩
      exact ⟨r :: rest, by rw [ofTypes, hr, hrest]⟩

/-- **The types that write references are the class-shaped ones**, among the types of texts. -/
theorem TypeRef.IsSourceShaped.exists_ofType_eq_ok_iff {t : TypeRef} (h : t.IsSourceShaped) :
    (∃ r, CodeReference.ofType t = .ok r) ↔ t.IsClassShaped := by
  induction h with
  | @raw name mem =>
    have hname : (TypeRef.raw name).IsName := trivial
    exact iff_of_true ⟨_, CodeReference.ofType_of_isName hname⟩ hname.isClassShaped
  | @id name dotted not_mem =>
    have hname : (TypeRef.id name).IsName := trivial
    exact iff_of_true ⟨_, CodeReference.ofType_of_isName hname⟩ hname.isClassShaped
  | @generic base args base_shaped base_name args_ne_nil args_shaped ih_base ih_args =>
    have hargs : (∃ rs, CodeReference.ofTypes args = .ok rs) ↔ ∀ arg ∈ args, arg.IsClassShaped :=
      CodeReference.exists_ofTypes_eq_ok_iff.trans (forall₂_congr ih_args)
    rw [isClassShaped_generic_iff, and_iff_right base_name.isClassShaped, ← hargs, CodeReference.ofType,
      CodeReference.ofType_of_isName base_name]
    cases CodeReference.ofTypes args with
    | error e => exact iff_of_false (not_exists_eq_ok rfl) (not_exists_eq_ok rfl)
    | ok rs => exact iff_of_true ⟨_, rfl⟩ ⟨rs, rfl⟩
  | array element_shaped element_flat pos ih =>
    exact iff_of_false (not_exists_eq_ok rfl) fun h => h.not_isArrayOrWildcard trivial
  | unbounded => exact iff_of_false (not_exists_eq_ok rfl) fun h => h.not_isArrayOrWildcard trivial
  | bounded isUpper bound_shaped ih =>
    exact iff_of_false (not_exists_eq_ok rfl) fun h => h.not_isArrayOrWildcard trivial

namespace CodeReference

/-- **The texts of class references are the texts of class-shaped types.**  The reference that a text writes
has the text of the type that it writes, and is read back from it. -/
theorem ofText_classShaped (text : String) :
    ((∃ r, ofText text = .ok r) ↔ ∃ t, TypeRef.ofText text = .ok t ∧ t.IsClassShaped) ∧
      ∀ r, ofText text = .ok r →
        ∃ t, TypeRef.ofText text = .ok t ∧ r.toText = t.toText ∧ ofText r.toText = .ok r := by
  cases ht : TypeRef.ofText text with
  | error e =>
    have herror : ofText text = .error e := by rw [ofText, ht]
    refine ⟨iff_of_false (not_exists_eq_ok herror) ?_, fun r hr => ?_⟩
    · rintro ⟨t, hread, -⟩
      cases hread
    · exact absurd ⟨r, hr⟩ (not_exists_eq_ok herror)
  | ok t =>
    have hshaped : t.IsSourceShaped := TypeRef.isSourceShaped_of_ofText_eq_ok ht
    have hread : ofText text = ofType t := by rw [ofText, ht]
    refine ⟨?_, fun r hr => ⟨t, rfl, hshaped.toText_ofType r (hread ▸ hr), ofText_toText hr⟩⟩
    rw [hread, hshaped.exists_ofType_eq_ok_iff]
    constructor
    · intro hclass
      exact ⟨t, rfl, hclass⟩
    · rintro ⟨s, heq, hclass⟩
      obtain rfl := Except.ok.inj heq
      exact hclass

/-- `HashMap<String, List<int>>`. -/
def hashMap : CodeReference := ⟨"HashMap", [⟨"String", []⟩, ⟨"List", [⟨"int", []⟩]⟩]⟩

/-- The text with its blanks in other places is read as the reference, which is read back from its own. -/
theorem ofText_classShaped_hashMap : ofText "HashMap <String,List< int>>" = .ok hashMap ∧
    (∃ t, TypeRef.ofText "HashMap <String,List< int>>" = .ok t ∧ t.IsClassShaped) ∧
    hashMap.toText = "HashMap<String, List<int>>" ∧ ofText hashMap.toText = .ok hashMap := by
  have htype : (TypeRef.ofText "HashMap <String,List< int>>").toOption =
      some (.generic (.id "HashMap") [.id "String", .generic (.id "List") [.raw "int"]]) := by
    decide +kernel
  have hread : ofText "HashMap <String,List< int>>" = .ok hashMap := by
    unfold ofText
    split
    · rename_i e he
      rw [he] at htype
      cases htype
    · rename_i t ht
      rw [ht] at htype
      obtain rfl := Option.some.inj htype
      rfl
  obtain ⟨hshaped, hback⟩ := ofText_classShaped "HashMap <String,List< int>>"
  obtain ⟨t, -, -, hagain⟩ := hback hashMap hread
  exact ⟨hread, hshaped.1 ⟨hashMap, hread⟩, by decide, hagain⟩

end CodeReference
end GroovyNew
