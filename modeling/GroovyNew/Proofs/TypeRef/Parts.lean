/-
# The parts of a type

A type occurs in another one (`TypeRef.Within`) as the whole, as the base or an argument of a generic type,
as the element of an array, as the bound of a wildcard or as the type of an entry of a map literal, and in
turn as a part of one of these.  Labels are not types.

Replacing names in a type finds no new parts: each part of the result is a part of a type that a name is
bound to, or what a part of the old type becomes (`TypeRef.within_subst`).  Nor does counting dimensions in
words (`TypeRef.within_wrapped`).  So a property of all parts is carried over by looking at one part at a
time.
-/

import GroovyNew.TypeRef.Word

namespace GroovyNew
namespace TypeRef

theorem sizeOf_lt_of_mem_entries {label : String} {t : TypeRef} {entries : List (String × TypeRef)}
    (mem : (label, t) ∈ entries) : sizeOf t < sizeOf entries := by
  have hentry := List.sizeOf_lt_of_mem mem
  rw [Prod.mk.sizeOf_spec] at hentry
  omega

/-- Induction over a type, with the property for every type inside. -/
@[elab_as_elim]
theorem induct {motive : TypeRef → Prop} (raw : ∀ name, motive (.raw name))
    (id : ∀ name, motive (.id name))
    (generic : ∀ base args, motive base → (∀ arg ∈ args, motive arg) → motive (.generic base args))
    (array : ∀ element dimensions, motive element → motive (.array element dimensions))
    (unbounded : ∀ isUpper, motive (.wildcard none isUpper))
    (bounded : ∀ bound isUpper, motive bound → motive (.wildcard (some bound) isUpper))
    (map : ∀ entries, (∀ label u, (label, u) ∈ entries → motive u) → motive (.map entries))
    (unknown : motive .unknown) : ∀ t, motive t
  | .raw name => raw name
  | .id name => id name
  | .generic base args =>
    generic base args (induct raw id generic array unbounded bounded map unknown base) fun arg _ =>
      induct raw id generic array unbounded bounded map unknown arg
  | .array element dimensions =>
    array element dimensions (induct raw id generic array unbounded bounded map unknown element)
  | .wildcard none isUpper => unbounded isUpper
  | .wildcard (some bound) isUpper =>
    bounded bound isUpper (induct raw id generic array unbounded bounded map unknown bound)
  | .map entries => map entries fun label u mem =>
    have : sizeOf u < sizeOf entries := sizeOf_lt_of_mem_entries mem
    induct raw id generic array unbounded bounded map unknown u
  | .unknown => unknown

/-! ### Parts -/

/-- A type occurs in another one, at any depth. -/
inductive Within : TypeRef → TypeRef → Prop
  | self (t : TypeRef) : Within t t
  | base {s base : TypeRef} {args : List TypeRef} (h : Within s base) : Within s (.generic base args)
  | arg {s base arg : TypeRef} {args : List TypeRef} (mem : arg ∈ args) (h : Within s arg) :
    Within s (.generic base args)
  | element {s element : TypeRef} {dimensions : Nat} (h : Within s element) :
    Within s (.array element dimensions)
  | bound {s bound : TypeRef} {isUpper : Bool} (h : Within s bound) :
    Within s (.wildcard (some bound) isUpper)
  | entry {s t : TypeRef} {label : String} {entries : List (String × TypeRef)}
    (mem : (label, t) ∈ entries) (h : Within s t) : Within s (.map entries)

variable {s t part : TypeRef} {name : String}

@[simp] theorem within_raw_iff : part.Within (.raw name) ↔ part = .raw name :=
  ⟨fun h => by cases h; rfl, fun h => h ▸ .self _⟩

@[simp] theorem within_id_iff : part.Within (.id name) ↔ part = .id name :=
  ⟨fun h => by cases h; rfl, fun h => h ▸ .self _⟩

@[simp] theorem within_unknown_iff : part.Within .unknown ↔ part = .unknown :=
  ⟨fun h => by cases h; rfl, fun h => h ▸ .self _⟩

/-! ### Arrays -/

/-- An array type. -/
def isArray : TypeRef → Bool
  | .array _ _ => true
  | _ => false

@[simp] theorem isArray_arrayOf (t : TypeRef) : t.arrayOf.isArray = true := by
  cases t <;> rfl

@[simp] theorem isArray_arrayOver (dimensions : Nat) (t : TypeRef) :
    (t.arrayOver dimensions).isArray = true := by
  cases t <;> rfl

@[simp] theorem isArray_wrapped (t : TypeRef) : t.wrapped.isArray = t.isArray := by
  cases t with
  | wildcard bound isUpper => cases bound <;> rfl
  | _ => rfl

theorem isArray_subst {t : TypeRef} (h : t.isArray = true) (s : Bindings) :
    (t.subst s).isArray = true := by
  cases t with
  | array element dimensions => rw [subst, isArray_arrayOver]
  | _ => cases h

theorem erasure?_of_isArray {t : TypeRef} (h : t.isArray = true) : t.erasure? = none := by
  cases t with
  | array element dimensions => rfl
  | _ => cases h

theorem exists_element_of_isArray {t : TypeRef} (h : t.isArray = true) :
    ∃ element, t.element? = some element := by
  cases t with
  | array element dimensions => exact ⟨_, rfl⟩
  | _ => cases h

theorem isArray_apply {t : TypeRef} (h : t.isArray = true) (s : Bindings) :
    (t.apply s).isArray = true := by
  rw [apply, isArray_wrapped, isArray_subst h]

/-- One dimension more is one dimension over the type. -/
theorem arrayOf_eq_arrayOver (t : TypeRef) : t.arrayOf = t.arrayOver 1 := by
  cases t with
  | array element dimensions => rw [arrayOf, arrayOver, Nat.add_comm]
  | _ => rfl

/-- The parts of an array over a type are parts of the type. -/
theorem within_arrayOver {dimensions : Nat} (h : part.Within (t.arrayOver dimensions)) :
    part = t.arrayOver dimensions ∨ part.Within t := by
  cases t with
  | array element inner =>
    cases h with
    | self => exact .inl rfl
    | element h => exact .inr (.element h)
  | _ =>
    cases h with
    | self => exact .inl rfl
    | element h => exact .inr h

/-! ### What replacing names does to the parts -/

/-- **Each part of a type in which names are replaced** is a part of a type that a name is bound to, or what
a part of the type becomes. -/
theorem within_subst {b : Bindings} : ∀ {t : TypeRef}, part.Within (t.subst b) →
    (∃ name u, b.get? name = some u ∧ part.Within u) ∨ ∃ p : TypeRef, p.Within t ∧ p.subst b = part := by
  intro t
  induction t using induct with
  | raw name | id name =>
    intro h
    rw [subst] at h
    cases hb : b.get? name with
    | some u => exact .inl ⟨name, u, hb, by rwa [hb] at h⟩
    | none =>
      rw [hb] at h
      cases h
      exact .inr ⟨_, .self _, by rw [subst, hb]⟩
  | generic base args ih_base ih_args =>
    intro h
    rw [subst, substList_eq_map] at h
    cases h with
    | self => exact .inr ⟨_, .self _, by rw [subst, substList_eq_map]⟩
    | base h => exact (ih_base h).imp_right (.imp fun _ hp => ⟨.base hp.1, hp.2⟩)
    | arg mem h =>
      obtain ⟨arg, harg, rfl⟩ := List.mem_map.1 mem
      exact (ih_args arg harg h).imp_right (.imp fun _ hp => ⟨.arg harg hp.1, hp.2⟩)
  | array element dimensions ih =>
    intro h
    obtain rfl | h := within_arrayOver h
    · exact .inr ⟨_, .self _, rfl⟩
    · exact (ih h).imp_right (.imp fun _ hp => ⟨.element hp.1, hp.2⟩)
  | bounded bound isUpper ih =>
    intro h
    cases h with
    | self => exact .inr ⟨_, .self _, rfl⟩
    | bound h => exact (ih h).imp_right (.imp fun _ hp => ⟨.bound hp.1, hp.2⟩)
  | map entries ih =>
    intro h
    rw [subst, substEntries_eq_map] at h
    cases h with
    | self => exact .inr ⟨_, .self _, by rw [subst, substEntries_eq_map]⟩
    | entry mem h =>
      obtain ⟨⟨label, u⟩, he, heq⟩ := List.mem_map.1 mem
      obtain ⟨rfl, rfl⟩ := Prod.mk.inj heq
      exact (ih label u he h).imp_right (.imp fun _ hp => ⟨.entry he hp.1, hp.2⟩)
  | unbounded _ | unknown =>
    intro h
    cases h
    exact .inr ⟨_, .self _, rfl⟩

/-! ### What words hold of the parts -/

/-- Each part of what words hold of a type is what words hold of a part of the type. -/
theorem within_wrapped : ∀ {t : TypeRef}, part.Within t.wrapped → ∃ p : TypeRef, p.Within t ∧ p.wrapped = part := by
  intro t
  induction t using induct with
  | raw name | id name | unbounded _ | unknown =>
    intro h
    cases h
    exact ⟨_, .self _, rfl⟩
  | generic base args ih_base ih_args =>
    intro h
    rw [wrapped, wrappedList_eq_map] at h
    cases h with
    | self => exact ⟨_, .self _, by rw [wrapped, wrappedList_eq_map]⟩
    | base h => exact (ih_base h).imp fun p hp => ⟨.base hp.1, hp.2⟩
    | arg mem h =>
      obtain ⟨arg, harg, rfl⟩ := List.mem_map.1 mem
      exact (ih_args arg harg h).imp fun p hp => ⟨.arg harg hp.1, hp.2⟩
  | array element dimensions ih =>
    intro h
    cases h with
    | self => exact ⟨_, .self _, rfl⟩
    | element h => exact (ih h).imp fun p hp => ⟨.element hp.1, hp.2⟩
  | bounded bound isUpper ih =>
    intro h
    cases h with
    | self => exact ⟨_, .self _, rfl⟩
    | bound h => exact (ih h).imp fun p hp => ⟨.bound hp.1, hp.2⟩
  | map entries ih =>
    intro h
    rw [wrapped, wrappedEntries_eq_map] at h
    cases h with
    | self => exact ⟨_, .self _, by rw [wrapped, wrappedEntries_eq_map]⟩
    | entry mem h =>
      obtain ⟨⟨label, u⟩, he, heq⟩ := List.mem_map.1 mem
      obtain ⟨rfl, rfl⟩ := Prod.mk.inj heq
      exact (ih label u he h).imp fun p hp => ⟨.entry he hp.1, hp.2⟩

end TypeRef
end GroovyNew
