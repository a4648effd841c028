/-
# Substitutions compose

Replacing names by one table and then by another is replacing them by one table: `Bindings.andThen` binds
the names of the first to what the second makes of their types, and the other names as the second does.
`TypeRef.subst_subst_and_subst_empty_iff` says so of every type.

An array whose element becomes an array is merged with it, its dimensions added, and that in each of the
two steps.  It makes no difference when arrays are merged, because building an array over a type and
replacing names in it can change places (`TypeRef.subst_arrayOver`).

Merging is all that a substitution does to the names that it does not bind.  So the one that binds nothing
leaves exactly those types as they are in which nothing is left to merge (`TypeRef.IsMerged`).
-/

import GroovyNew.Proofs.TypeRef.Bindings
import GroovyNew.Proofs.TypeRef.Parts

namespace GroovyNew

/-! ### One table for two -/

namespace Bindings

/-- The names of `s` with `r` applied to their types, and the names that only `r` binds. -/
def andThen (s r : Bindings) : Bindings :=
  ⟨s.entries.map (fun e => (e.1, e.2.subst r)) ++ r.entries.filter fun e => (s.get? e.1).isNone⟩

theorem lookup_map_entries (f : TypeRef → TypeRef) (es : List (String × TypeRef)) (name : String) :
    (es.map fun e => (e.1, f e.2)).lookup name = (es.lookup name).map f := by
  induction es with
  | nil => rfl
  | cons e es ih =>
    obtain ⟨n, u⟩ := e
    by_cases h : name = n
    · simp [h]
    · simp [List.lookup_cons, beq_false_of_ne h, ih]

theorem lookup_filter_names {p : String → Bool} {name : String} (hp : p name = true)
    (es : List (String × TypeRef)) : (es.filter fun e => p e.1).lookup name = es.lookup name := by
  induction es with
  | nil => rfl
  | cons e es ih =>
    obtain ⟨n, u⟩ := e
    by_cases h : name = n
    · obtain rfl := h
      simp [hp]
    · rw [List.filter_cons, List.lookup_cons, beq_false_of_ne h]
      split
      · rw [List.lookup_cons, beq_false_of_ne h, ih]
      · exact ih

/-- What the table for both steps binds a name to. -/
theorem get?_andThen (s r : Bindings) (name : String) :
    (s.andThen r).get? name =
      match s.get? name with
      | some t => some (t.subst r)
      | none => r.get? name := by
  rw [get?, andThen, List.lookup_append, lookup_map_entries]
  cases hs : s.get? name with
  | some t =>
    rw [get?] at hs
    rw [hs, Option.map_some, Option.some_or]
  | none =>
    have hunbound : (s.get? name).isNone = true := by rw [hs, Option.isNone_none]
    rw [lookup_filter_names (p := fun n => (s.get? n).isNone) hunbound]
    rw [get?] at hs
    rw [hs, Option.map_none, Option.none_or, get?]

end Bindings

namespace TypeRef

/-! ### Both steps -/

/-- The dimensions of arrays over arrays are added. -/
theorem arrayOver_arrayOver (m n : Nat) (t : TypeRef) :
    (t.arrayOver m).arrayOver n = t.arrayOver (n + m) := by
  cases t with
  | array element inner => rw [arrayOver, arrayOver, arrayOver, Nat.add_assoc]
  | _ => rfl

/-- **Names can be replaced before an array is built over a type or after.** -/
theorem subst_arrayOver (s : Bindings) (dimensions : Nat) (t : TypeRef) :
    (t.arrayOver dimensions).subst s = (t.subst s).arrayOver dimensions := by
  cases t with
  | array element inner => rw [arrayOver, subst, subst, arrayOver_arrayOver]
  | _ => rfl

/-- Two steps of replacing names are one, by the table for both. -/
theorem subst_subst (s r : Bindings) (t : TypeRef) : (t.subst s).subst r = t.subst (s.andThen r) := by
  induction t using induct with
  | raw name | id name =>
    rw [subst, subst, Bindings.get?_andThen]
    cases s.get? name with
    | some u => rfl
    | none => rw [Option.getD_none, subst]
  | generic base args ih_base ih_args =>
    simp only [subst, substList_eq_map, List.map_map, ih_base]
    exact congrArg _ (List.map_congr_left ih_args)
  | array element dimensions ih => rw [subst, subst, subst_arrayOver, ih]
  | bounded bound isUpper ih => rw [subst, subst, subst, ih]
  | map entries ih =>
    simp only [subst, substEntries_eq_map, List.map_map]
    refine congrArg _ (List.map_congr_left fun e he => ?_)
    rw [Function.comp_apply, ih e.1 e.2 he]
  | unbounded | unknown => rfl

/-! ### Nothing left to merge -/

/-- No array in the type has an array as its element. -/
def IsMerged (t : TypeRef) : Prop :=
  ∀ (element : TypeRef) (m n : Nat), ¬(array (array element m) n).Within t

/-- What replacing names makes an array has no array as its element, if no type that a name is bound to
does. -/
theorem isArray_eq_false_of_subst_eq {s : Bindings} (hs : s.Each IsMerged) :
    ∀ {t element : TypeRef} {dimensions : Nat}, t.subst s = .array element dimensions →
      element.isArray = false
  | .raw name, element, dimensions, h | .id name, element, dimensions, h => by
    rw [subst] at h
    cases hb : s.get? name with
    | none =>
      rw [hb] at h
      cases h
    | some u =>
      obtain rfl : u = .array element dimensions := by rwa [hb] at h
      cases element with
      | array inner m => exact absurd (.self _) (hs name _ hb inner m dimensions)
      | _ => rfl
  | .array inner _, element, dimensions, h => by
    rw [subst] at h
    cases hinner : inner.subst s with
    | array e m =>
      rw [hinner] at h
      obtain ⟨rfl, -⟩ := TypeRef.array.inj h
      exact isArray_eq_false_of_subst_eq hs hinner
    | _ =>
      rw [hinner] at h
      obtain ⟨rfl, -⟩ := TypeRef.array.inj h
      rfl
  | .generic _ _, _, _, h | .wildcard none _, _, _, h | .wildcard (some _) _, _, _, h | .map _, _, _, h
  | .unknown, _, _, h => by cases h

/-- **Replacing names leaves nothing to merge**, whatever there was, if there is nothing to merge in the
types that they are bound to. -/
theorem isMerged_subst {s : Bindings} (hs : s.Each IsMerged) (t : TypeRef) : (t.subst s).IsMerged := by
  intro element m n h
  obtain ⟨name, u, hu, hwithin⟩ | ⟨p, -, hp⟩ := within_subst h
  · exact hs name u hu element m n hwithin
  · have hflat := isArray_eq_false_of_subst_eq hs hp
    cases hflat

/-- A type in which nothing is left to merge is left as it is where no name is bound. -/
theorem subst_empty {t : TypeRef} (h : t.IsMerged) : t.subst .empty = t := by
  induction t using induct with
  | raw | id | unbounded | unknown => rfl
  | generic base args ih_base ih_args =>
    have hbase : base.subst .empty = base := ih_base fun e m n he => h e m n (.base he)
    have hargs : ∀ arg ∈ args, arg.subst .empty = arg := fun arg harg =>
      ih_args arg harg fun e m n he => h e m n (.arg harg he)
    rw [subst, substList_eq_map, hbase, List.map_congr_left hargs, List.map_id']
  | array element dimensions ih =>
    have helement : element.subst .empty = element := ih fun e m n he => h e m n (.element he)
    rw [subst, helement]
    cases element with
    | array e m => exact absurd (.self _) (h e m dimensions)
    | _ => rfl
  | bounded bound isUpper ih => rw [subst, ih fun e m n he => h e m n (.bound he)]
  | map entries ih =>
    have hentries : ∀ e ∈ entries, (e.1, e.2.subst .empty) = e := fun e he => by
      rw [ih e.1 e.2 he fun e' m n hwithin => h e' m n (.entry he hwithin)]
    rw [subst, substEntries_eq_map, List.map_congr_left hentries, List.map_id']

/-- **Substitutions compose.**  Replacing names by `s` and then by `r` is replacing them by the table that
binds each name of `s` to what `r` makes of its type, and each name that only `r` binds as `r` does.  The
substitution that binds nothing leaves a type as it is exactly if no array in the type has an array as its
element. -/
theorem subst_subst_and_subst_empty_iff (s r : Bindings) :
    (∀ name, (s.andThen r).get? name =
        match s.get? name with
        | some t => some (t.subst r)
        | none => r.get? name) ∧
      (∀ t : TypeRef, (t.subst s).subst r = t.subst (s.andThen r)) ∧
      ∀ t : TypeRef, t.subst .empty = t ↔
        ∀ (element : TypeRef) (m n : Nat), ¬(array (array element m) n).Within t := by
  refine ⟨s.get?_andThen r, subst_subst s r, fun t => ⟨fun h => ?_, subst_empty⟩⟩
  have hmerged : (t.subst .empty).IsMerged := isMerged_subst Bindings.each_empty t
  rwa [h] at hmerged

/-- `T[]` with `T` bound to `List<U>[]`, and then `U` to `int[]`: the arrays are merged before the second
step. -/
example : ((array (id "T") 1).subst ⟨[("T", .array (.generic (.id "List") [.id "U"]) 1)]⟩).subst
    ⟨[("U", .array (.raw "int") 1)]⟩ = .array (.generic (.id "List") [.array (.raw "int") 1]) 2 := by
  decide

end TypeRef
end GroovyNew
