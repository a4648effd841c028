/-
# Dimensions in machine words

The dimensions of an array are counted in a machine word.  Where they are added, a sum that does not fit
starts again at zero: `T[]` with an array of `2 ^ 64 - 1` dimensions for `T` is an array of none.  A build
that checks its sums stops in such a case.

`TypeRef.arrayOf` and `TypeRef.subst` add without a limit.  What words hold of their results is given by
`TypeRef.wrapped`; `TypeRef.apply` is the substitution in words, which goes through a type as the exact one
does and adds in words where arrays meet (`TypeRef.apply_array`).
-/

import GroovyNew.TypeRef.Bindings

namespace GroovyNew

/-- The numbers below this one fit a machine word. -/
def wordSize : Nat := UInt64.size

/-- A text in memory has fewer bytes than this. -/
def textLimit : Nat := UInt64.size / 2

namespace TypeRef

mutual

/-- The type with each number of dimensions as a word holds it. -/
def wrapped : TypeRef → TypeRef
  | .raw name => .raw name
  | .id name => .id name
  | .generic base args => .generic base.wrapped (wrappedList args)
  | .array element dimensions => .array element.wrapped (dimensions % wordSize)
  | .wildcard none isUpper => .wildcard none isUpper
  | .wildcard (some bound) isUpper => .wildcard (some bound.wrapped) isUpper
  | .map entries => .map (wrappedEntries entries)
  | .unknown => .unknown

/-- `wrapped` on each type. -/
def wrappedList : List TypeRef → List TypeRef
  | [] => []
  | t :: ts => t.wrapped :: wrappedList ts

/-- `wrapped` on each labelled type. -/
def wrappedEntries : List (String × TypeRef) → List (String × TypeRef)
  | [] => []
  | (label, t) :: es => (label, t.wrapped) :: wrappedEntries es

end

@[simp] theorem wrappedList_eq_map (ts : List TypeRef) : wrappedList ts = ts.map wrapped := by
  induction ts with
  | nil => rfl
  | cons t ts ih => rw [wrappedList, ih, List.map_cons]

@[simp] theorem wrappedEntries_eq_map (es : List (String × TypeRef)) :
    wrappedEntries es = es.map fun e => (e.1, e.2.wrapped) := by
  induction es with
  | nil => rfl
  | cons e es ih =>
    obtain ⟨label, t⟩ := e
    rw [wrappedEntries, ih, List.map_cons]

/-- Replaces every bound name by its type, with dimensions added in words. -/
def apply (s : Bindings) (t : TypeRef) : TypeRef := (t.subst s).wrapped

theorem apply_generic (s : Bindings) (base : TypeRef) (args : List TypeRef) :
    (generic base args).apply s = .generic (base.apply s) (args.map (apply s)) := by
  rw [apply, subst, wrapped, substList_eq_map, wrappedList_eq_map, List.map_map]
  rfl

theorem apply_bounded (s : Bindings) (bound : TypeRef) (isUpper : Bool) :
    (wildcard (some bound) isUpper).apply s = .wildcard (some (bound.apply s)) isUpper := rfl

theorem apply_map (s : Bindings) (entries : List (String × TypeRef)) :
    (map entries).apply s = .map (entries.map fun e => (e.1, e.2.apply s)) := by
  rw [apply, subst, wrapped, substEntries_eq_map, wrappedEntries_eq_map, List.map_map]
  rfl

/-- An array whose element becomes an array is merged with it, the dimensions added in a word. -/
theorem apply_array (s : Bindings) (element : TypeRef) (dimensions : Nat) :
    (array element dimensions).apply s =
      match element.apply s with
      | .array inner m => .array inner ((dimensions + m) % wordSize)
      | e => .array e (dimensions % wordSize) := by
  rw [apply, apply, subst]
  cases element.subst s with
  | array inner m =>
    rw [arrayOver, wrapped, wrapped]
    change _ = array inner.wrapped ((dimensions + m % wordSize) % wordSize)
    rw [Nat.add_mod_mod]
  | wildcard bound isUpper => cases bound <;> rfl
  | _ => rfl

end TypeRef
end GroovyNew
