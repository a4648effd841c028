/-
# Subtyping is a preorder on concrete types

Subtyping is decided by a cascade of rules.  For concrete types, in which nothing is left open
(`TypeRef.IsConcrete`), the form of a type tells what lies above it:

| type | above it |
| --- | --- |
| primitive or `void` | itself and what it widens to (`TypeSystem.isSubtype_raw_iff`) |
| class with or without arguments, map literal | what erases to a class that its class is an inheritor of (`TypeSystem.isSubtype_iff_of_erasure?`) |
| array | the classes that every array inherits from, arrays of as many dimensions over what lies above the element, arrays of fewer dimensions over one of these classes (`TypeSystem.isSubtype_array_iff`) |

So transitivity is that of widening, that of inheritance, and that of the ways out of the arrays.
Inheritance mixes the declared edges with the table of well-known classes.  The table lists all ancestors
of each of its classes, so inheritance is transitive (`ClassIndex.isInheritor_trans`) as long as no
well-known class is declared.  `ClassIndex.isSubtype_preorder` is the result.
-/

import GroovyNew.Proofs.ClassIndex.Ancestors
import GroovyNew.Proofs.ClassIndex.Indexing

namespace GroovyNew

/-! ### The tables -/

namespace WellKnown

/-- The ancestors of a well-known class are well known, and their ancestors are among its own. -/
theorem contains_and_subset_of_mem_ancestors {fqn c : String} (h : c ∈ ancestors fqn) :
    contains c = true ∧ ∀ d ∈ ancestors c, d ∈ ancestors fqn := by
  have hclosed : ∀ entry ∈ table, ∀ c ∈ entry.ancestors,
      contains c = true ∧ ∀ d ∈ ancestors c, d ∈ entry.ancestors := by decide +kernel
  unfold ancestors at h
  split at h
  · rename_i entry hfind
    obtain ⟨hcontains, hsubset⟩ := hclosed entry (List.mem_of_find?_eq_some hfind) c h
    have hancestors : ancestors fqn = entry.ancestors := by rw [ancestors, hfind]
    exact ⟨hcontains, hancestors ▸ hsubset⟩
  · cases h

end WellKnown

namespace Subtyping

theorem widens_trans {p q r : String} (hpq : widens p q = true) (hqr : widens q r = true) :
    widens p r = true := by
  have hclosed : ∀ entry ∈ widenings, ∀ q ∈ entry.2, ∀ r ∈ (widenings.lookup q).getD [],
      r ∈ entry.2 := by decide
  unfold widens at hpq hqr ⊢
  rw [List.contains_iff_mem] at hpq hqr ⊢
  cases hp : widenings.lookup p with
  | none =>
    rw [hp] at hpq
    cases hpq
  | some wider =>
    rw [hp] at hpq
    obtain ⟨before, after, hsplit, -⟩ := List.lookup_eq_some_iff.1 hp
    have hentry : (p, wider) ∈ widenings := hsplit ▸ List.mem_append_right _ List.mem_cons_self
    exact hclosed _ hentry q hpq r hqr

theorem isArraySupertype_iff {t : TypeRef} :
    isArraySupertype t = true ↔ ∃ name ∈ arraySupertypes, t = .id name := by
  cases t <;> simp [isArraySupertype]

end Subtyping

/-! ### Inheritance -/

namespace ClassIndex

variable {index : ClassIndex} {c d e : String}

/-- No well-known class is declared. -/
def KeepsWellKnown (index : ClassIndex) : Prop := ∀ fqn ∈ index.names, WellKnown.contains fqn = false

theorem KeepsWellKnown.not_declares (h : index.KeepsWellKnown) (hc : WellKnown.contains c = true) :
    index.declares c = false := by
  by_contra hdeclares
  rw [h c (declares_iff.1 (by simpa using hdeclares))] at hc
  cases hc

/-- A class that is not declared is an inheritor by the table alone. -/
theorem isInheritor_iff_of_not_declares (h : index.declares c = false) :
    index.typeSystem.isInheritor c d = true ↔
      d = c ∨ d = TypeRef.objectName ∨ d ∈ WellKnown.ancestors c := by
  rw [isInheritor_iff_climbs]
  constructor
  · rintro (hobject | ⟨n, k, hk, hd⟩)
    · exact .inr (.inl hobject)
    · obtain rfl := hk.eq_of_not_declares h
      obtain rfl | hwell := hd
      · exact .inl rfl
      · exact .inr (.inr hwell)
  · rintro (rfl | hobject | hwell)
    · exact .inr ⟨0, d, .rest, .inl rfl⟩
    · exact .inl hobject
    · exact .inr ⟨0, c, .rest, .inr hwell⟩

/-- What an array inherits from has only such classes above it. -/
theorem mem_arraySupertypes_of_isInheritor (h : index.KeepsWellKnown)
    (hc : c ∈ Subtyping.arraySupertypes) (hcd : index.typeSystem.isInheritor c d = true) :
    d ∈ Subtyping.arraySupertypes := by
  have hclosed : ∀ c ∈ Subtyping.arraySupertypes, WellKnown.contains c = true ∧
      ∀ d ∈ WellKnown.ancestors c, d ∈ Subtyping.arraySupertypes := by decide +kernel
  have hobject : TypeRef.objectName ∈ Subtyping.arraySupertypes := List.mem_cons_self
  obtain ⟨hcontains, hsubset⟩ := hclosed c hc
  obtain rfl | rfl | hwell := (isInheritor_iff_of_not_declares (h.not_declares hcontains)).1 hcd
  · exact hc
  · exact hobject
  · exact hsubset d hwell

/-- **Inheritance is transitive** if no well-known class is declared.  A way up that leaves the
declarations ends in the table, which lists all that follows. -/
theorem isInheritor_trans (h : index.KeepsWellKnown)
    (hcd : index.typeSystem.isInheritor c d = true) (hde : index.typeSystem.isInheritor d e = true) :
    index.typeSystem.isInheritor c e = true := by
  obtain rfl | ⟨n, k, hk, hd⟩ := isInheritor_iff_climbs.1 hcd
  · have hroot : WellKnown.contains TypeRef.objectName = true ∧
        WellKnown.ancestors TypeRef.objectName = [] := by decide +kernel
    have he := (isInheritor_iff_of_not_declares (h.not_declares hroot.1)).1 hde
    rw [hroot.2] at he
    obtain rfl | rfl | hnone := he
    · exact hcd
    · exact hcd
    · cases hnone
  obtain rfl | hwell := hd
  · -- The way up continues with the one from `d`.
    obtain rfl | ⟨m, l, hl, he⟩ := isInheritor_iff_climbs.1 hde
    · exact isInheritor_iff_climbs.2 (.inl rfl)
    · exact isInheritor_iff_climbs.2 (.inr ⟨n + m, l, hk.trans hl, he⟩)
  · -- The way up has left the declarations for the table, where `d` stands.
    obtain ⟨hcontains, hsubset⟩ := WellKnown.contains_and_subset_of_mem_ancestors hwell
    obtain rfl | rfl | he := (isInheritor_iff_of_not_declares (h.not_declares hcontains)).1 hde
    · exact hcd
    · exact isInheritor_iff_climbs.2 (.inl rfl)
    · exact isInheritor_iff_climbs.2 (.inr ⟨n, k, hk, .inr (hsubset e he)⟩)

end ClassIndex

/-! ### What lies above a type -/

namespace TypeRef

/-- A type in which nothing is left open, with arrays in flat form.  What is erased does not matter:
the type arguments, and the entries of a map literal.  The classes that every array inherits from take
no arguments. -/
inductive IsConcrete : TypeRef → Prop
  | raw (name : String) : IsConcrete (.raw name)
  | id (name : String) : IsConcrete (.id name)
  | map (entries : List (String × TypeRef)) : IsConcrete (.map entries)
  | generic {name : String} (hname : name ∉ Subtyping.arraySupertypes) (args : List TypeRef) :
      IsConcrete (.generic (.id name) args)
  | array {element : TypeRef} (helement : element.IsConcrete) (hflat : ∀ e n, element ≠ .array e n)
      (dimensions : Nat) : IsConcrete (.array element dimensions)

/-- A concrete type that erases to one of the classes that every array inherits from is that class. -/
theorem IsConcrete.eq_id_of_erasure? {t : TypeRef} {name : String} (h : t.IsConcrete)
    (hname : name ∈ Subtyping.arraySupertypes) (ht : t.erasure? = some name) : t = .id name := by
  cases h with
  | id => rw [Option.some.inj ht]
  | map entries =>
    have hmap : mapLiteralName ∉ Subtyping.arraySupertypes := by decide
    exact absurd (Option.some.inj ht ▸ hname) hmap
  | generic hnot args => exact absurd (Option.some.inj ht ▸ hname) hnot
  | raw | array => cases ht

end TypeRef

namespace TypeSystem

variable {ts : TypeSystem} {s t : TypeRef} {c p : String}

theorem isInheritor_self (ts : TypeSystem) (c : String) : ts.isInheritor c c = true := by
  rw [isInheritor, beq_self_eq_true, Bool.true_or, Bool.true_or]

theorem isInheritor_objectName (ts : TypeSystem) (c : String) :
    ts.isInheritor c TypeRef.objectName = true := by
  rw [isInheritor, beq_self_eq_true, Bool.or_true, Bool.true_or]

theorem isErasedSubtype_iff (hc : s.erasure? = some c) :
    ts.isErasedSubtype s t = true ↔ ∃ d, t.erasure? = some d ∧ ts.isInheritor c d = true := by
  unfold isErasedSubtype
  rw [hc]
  cases t.erasure? <;> simp

theorem isSubtype_raw_iff (ht : t.IsConcrete) :
    ts.isSubtype (.raw p) t = true ↔ ∃ q, t = .raw q ∧ (p = q ∨ Subtyping.widens p q = true) := by
  unfold isSubtype
  cases ht with
  | raw q => simp [TypeRef.isUnknown]
  | _ => simp [TypeRef.isUnknown, isErasedSubtype, TypeRef.erasure?, TypeRef.isRaw]

theorem isSubtype_iff_of_erasure? (hs : s.IsConcrete) (hc : s.erasure? = some c) (ht : t.IsConcrete) :
    ts.isSubtype s t = true ↔ ∃ d, t.erasure? = some d ∧ ts.isInheritor c d = true := by
  rw [← isErasedSubtype_iff hc]
  by_cases hst : s = t
  · -- A type is an erased subtype of itself, as the first rule says without erasure.
    have herased : ts.isErasedSubtype s t = true :=
      (isErasedSubtype_iff hc).2 ⟨c, hst ▸ hc, ts.isInheritor_self c⟩
    unfold isSubtype
    rw [if_pos hst, herased]
  have hknown : ¬((s.isUnknown || t.isUnknown) = true) := by
    cases hs <;> cases ht <;> simp [TypeRef.isUnknown]
  unfold isSubtype
  rw [if_neg hst, if_neg hknown]
  split
  · rename_i hobject
    have herased : ts.isErasedSubtype s t = true :=
      (isErasedSubtype_iff hc).2 ⟨_, hobject ▸ rfl, ts.isInheritor_objectName c⟩
    rw [herased]
    cases hs with
    | raw => cases hc
    | _ => rfl
  · cases hs with
    | raw | array => cases hc
    | _ => cases ht <;> rfl

/-- An array lies above another by its elements, none of them primitive unless they are the same, or by
its dimensions. -/
theorem isSubtype_array_array_iff {e f : TypeRef} {m n : Nat} :
    ts.isSubtype (.array e m) (.array f n) = true ↔
      n = m ∧ (e = f ∨ e.isPrimitive = false ∧ f.isPrimitive = false ∧ ts.isSubtype e f = true) ∨
        n < m ∧ Subtyping.isArraySupertype f = true := by
  conv_lhs => unfold isSubtype
  by_cases hmn : m = n
  · subst hmn
    by_cases hef : e = f
    · simp [hef]
    cases he : e.isPrimitive with
    | true => simp [TypeRef.isUnknown, hef, he]
    | false => cases hf : f.isPrimitive <;> simp [TypeRef.isUnknown, hef, he, hf]
  · simp [TypeRef.isUnknown, hmn, Ne.symm hmn]

theorem isSubtype_array_id_iff {e : TypeRef} {m : Nat} {name : String} :
    ts.isSubtype (.array e m) (.id name) = true ↔ name ∈ Subtyping.arraySupertypes := by
  have hobject : TypeRef.objectName ∈ Subtyping.arraySupertypes := List.mem_cons_self
  unfold isSubtype
  by_cases hname : name = TypeRef.objectName
  · simp [TypeRef.isUnknown, TypeRef.isRaw, hname, hobject]
  · simp [TypeRef.isUnknown, Subtyping.isArraySupertype, hname]

theorem isSubtype_array_iff {e : TypeRef} {m : Nat} (ht : t.IsConcrete) :
    ts.isSubtype (.array e m) t = true ↔
      Subtyping.isArraySupertype t = true ∨
        (∃ f, t = .array f m ∧
          (e = f ∨ e.isPrimitive = false ∧ f.isPrimitive = false ∧ ts.isSubtype e f = true)) ∨
        ∃ f n, t = .array f n ∧ n < m ∧ Subtyping.isArraySupertype f = true := by
  cases ht with
  | @array f _ _ n =>
    rw [isSubtype_array_array_iff]
    simp [Subtyping.isArraySupertype]
  | id name =>
    rw [isSubtype_array_id_iff]
    simp [Subtyping.isArraySupertype]
  | _ =>
    unfold isSubtype
    simp [TypeRef.isUnknown, isErasedSubtype, TypeRef.erasure?, Subtyping.isArraySupertype]

end TypeSystem

/-! ### Transitivity -/

namespace TypeSystem

variable {ts : TypeSystem} {t u : TypeRef} {p : String}

theorem isSubtype_raw_trans (ht : t.IsConcrete) (hu : u.IsConcrete)
    (hpt : ts.isSubtype (.raw p) t = true) (htu : ts.isSubtype t u = true) :
    ts.isSubtype (.raw p) u = true := by
  obtain ⟨q, rfl, hpq⟩ := (isSubtype_raw_iff ht).1 hpt
  obtain ⟨r, rfl, hqr⟩ := (isSubtype_raw_iff hu).1 htu
  refine (isSubtype_raw_iff hu).2 ⟨r, rfl, ?_⟩
  obtain rfl | hpq := hpq
  · exact hqr
  · obtain rfl | hqr := hqr
    · exact .inr hpq
    · exact .inr (Subtyping.widens_trans hpq hqr)

end TypeSystem

namespace ClassIndex

variable {index : ClassIndex} {s t u : TypeRef} {c : String}

theorem isSubtype_trans_of_erasure? (h : index.KeepsWellKnown) (hs : s.IsConcrete)
    (hc : s.erasure? = some c) (ht : t.IsConcrete) (hu : u.IsConcrete)
    (hst : index.typeSystem.isSubtype s t = true) (htu : index.typeSystem.isSubtype t u = true) :
    index.typeSystem.isSubtype s u = true := by
  obtain ⟨d, hd, hcd⟩ := (TypeSystem.isSubtype_iff_of_erasure? hs hc ht).1 hst
  obtain ⟨e, he, hde⟩ := (TypeSystem.isSubtype_iff_of_erasure? ht hd hu).1 htu
  exact (TypeSystem.isSubtype_iff_of_erasure? hs hc hu).2 ⟨e, he, isInheritor_trans h hcd hde⟩

/-- Transitivity below a type that is no array. -/
theorem isSubtype_trans_of_flat (h : index.KeepsWellKnown) (hs : s.IsConcrete)
    (hflat : ∀ e n, s ≠ .array e n) (ht : t.IsConcrete) (hu : u.IsConcrete)
    (hst : index.typeSystem.isSubtype s t = true) (htu : index.typeSystem.isSubtype t u = true) :
    index.typeSystem.isSubtype s u = true := by
  cases hs with
  | raw p => exact TypeSystem.isSubtype_raw_trans ht hu hst htu
  | id name => exact isSubtype_trans_of_erasure? h (.id name) rfl ht hu hst htu
  | map entries => exact isSubtype_trans_of_erasure? h (.map entries) rfl ht hu hst htu
  | generic hname args => exact isSubtype_trans_of_erasure? h (.generic hname args) rfl ht hu hst htu
  | array _ _ dimensions => exact absurd rfl (hflat _ dimensions)

/-- Above a class that every array inherits from are only such classes. -/
theorem isArraySupertype_of_isSubtype (h : index.KeepsWellKnown)
    (ht : Subtyping.isArraySupertype t = true) (hu : u.IsConcrete)
    (htu : index.typeSystem.isSubtype t u = true) : Subtyping.isArraySupertype u = true := by
  obtain ⟨name, hname, rfl⟩ := Subtyping.isArraySupertype_iff.1 ht
  obtain ⟨d, hd, hinherits⟩ := (TypeSystem.isSubtype_iff_of_erasure? (.id name) rfl hu).1 htu
  have hmem := mem_arraySupertypes_of_isInheritor h hname hinherits
  exact Subtyping.isArraySupertype_iff.2 ⟨d, hmem, hu.eq_id_of_erasure? hmem hd⟩

/-- Transitivity below an array.  Once a way up has left the arrays of one number of dimensions, only the
classes that every array inherits from are left, alone or as elements. -/
theorem isSubtype_array_trans {e : TypeRef} {m : Nat} (h : index.KeepsWellKnown)
    (he : e.IsConcrete) (hflat : ∀ f n, e ≠ .array f n) (ht : t.IsConcrete) (hu : u.IsConcrete)
    (hst : index.typeSystem.isSubtype (.array e m) t = true)
    (htu : index.typeSystem.isSubtype t u = true) :
    index.typeSystem.isSubtype (.array e m) u = true := by
  rw [TypeSystem.isSubtype_array_iff hu]
  obtain htop | ⟨f, rfl, hef⟩ | ⟨f, n, rfl, hnm, hf⟩ := (TypeSystem.isSubtype_array_iff ht).1 hst
  · exact .inl (isArraySupertype_of_isSubtype h htop hu htu)
  · obtain htop | ⟨g, rfl, hfg⟩ | hfewer := (TypeSystem.isSubtype_array_iff hu).1 htu
    · exact .inl htop
    · refine .inr (.inl ⟨g, rfl, ?_⟩)
      obtain rfl | ⟨hprimitive, hmiddle, hef⟩ := hef
      · exact hfg
      obtain rfl | ⟨-, hprimitive', hfg⟩ := hfg
      · exact .inr ⟨hprimitive, hmiddle, hef⟩
      cases ht with
      | array hf =>
        cases hu with
        | array hg =>
          exact .inr ⟨hprimitive, hprimitive', isSubtype_trans_of_flat h he hflat hf hg hef hfg⟩
    · exact .inr (.inr hfewer)
  · obtain htop | ⟨g, rfl, hfg⟩ | ⟨g, k, rfl, hkn, hg⟩ := (TypeSystem.isSubtype_array_iff hu).1 htu
    · exact .inl htop
    · refine .inr (.inr ⟨g, n, rfl, hnm, ?_⟩)
      obtain rfl | ⟨-, -, hfg⟩ := hfg
      · exact hf
      cases hu with
      | array hg => exact isArraySupertype_of_isSubtype h hf hg hfg
    · exact .inr (.inr ⟨g, k, rfl, by omega, hg⟩)

/-- **Subtyping is reflexive, and transitive on concrete types,** over an index that declares no
well-known class.  Its hierarchy may be circular and may name classes that are not declared. -/
theorem isSubtype_preorder (h : index.KeepsWellKnown) :
    (∀ t, index.typeSystem.isSubtype t t = true) ∧
      ∀ s t u, s.IsConcrete → t.IsConcrete → u.IsConcrete →
        index.typeSystem.isSubtype s t = true → index.typeSystem.isSubtype t u = true →
          index.typeSystem.isSubtype s u = true := by
  constructor
  · intro t
    unfold TypeSystem.isSubtype
    rw [if_pos rfl]
  · intro s t u hs ht hu hst htu
    by_cases hflat : ∀ e n, s ≠ .array e n
    · exact isSubtype_trans_of_flat h hs hflat ht hu hst htu
    push Not at hflat
    obtain ⟨e, m, rfl⟩ := hflat
    cases hs with
    | array he hflat => exact isSubtype_array_trans h he hflat ht hu hst htu

/-- Two classes of one package that extend each other; one is a hash map too, the other names a class
that is not declared. -/
def circular : ClassIndex :=
  entries [{ fqn := "p.Front", superclass := some "p.Back", interfaces := ["p.Missing"] },
    { fqn := "p.Back", superclass := some "p.Front", interfaces := ["java.util.HashMap"] }]

/-- Through the circle and out of the declarations: `Front<A>[][]`, `HashMap[][]` and `Cloneable[]`. -/
theorem isSubtype_circular :
    circular.KeepsWellKnown ∧
      circular.typeSystem.isSubtype (.array (.generic (.id "p.Front") [.id "A"]) 2)
        (.array (.id "java.util.HashMap") 2) = true ∧
      circular.typeSystem.isSubtype (.array (.id "java.util.HashMap") 2)
        (.array (.id "java.lang.Cloneable") 1) = true ∧
      circular.typeSystem.isSubtype (.array (.generic (.id "p.Front") [.id "A"]) 2)
        (.array (.id "java.lang.Cloneable") 1) = true := by
  have hindex : circular.KeepsWellKnown := by
    unfold KeepsWellKnown
    decide +kernel
  have hfront : circular.typeSystem.isSubtype (.array (.generic (.id "p.Front") [.id "A"]) 2)
      (.array (.id "java.util.HashMap") 2) = true := by decide +kernel
  have hmap : circular.typeSystem.isSubtype (.array (.id "java.util.HashMap") 2)
      (.array (.id "java.lang.Cloneable") 1) = true := by decide +kernel
  refine ⟨hindex, hfront, hmap, (isSubtype_preorder hindex).2 _ _ _ ?_ ?_ ?_ hfront hmap⟩
  · exact .array (.generic (by decide) _) nofun 2
  · exact .array (.id _) nofun 2
  · exact .array (.id _) nofun 1

end ClassIndex
end GroovyNew
