/-
# Bindings of names to types

`Bindings` maps finitely many names to types and remembers the order in which the names were first
bound; binding a name again changes its type and keeps its place.  It serves as the substitution of
type parameters and as the table of local variables.

`TypeRef.subst` is the exact substitution, in which dimensions are any numbers.
-/

import GroovyNew.TypeRef.Basic

namespace GroovyNew

/-- Names with their types, in the order in which the names were first bound. -/
structure Bindings where
  entries : List (String × TypeRef) := []
  deriving DecidableEq, Inhabited, Repr

namespace Bindings

/-- The bindings that bind nothing. -/
def empty : Bindings := ⟨[]⟩

/-- Nothing is bound. -/
def isEmpty (s : Bindings) : Bool := s.entries.isEmpty

/-- The type of a name. -/
def get? (s : Bindings) (name : String) : Option TypeRef := s.entries.lookup name

/-- Binds `name` in a list of entries, in place if it is bound there already. -/
def insertEntry (name : String) (t : TypeRef) : List (String × TypeRef) → List (String × TypeRef)
  | [] => [(name, t)]
  | (n, u) :: es => if n = name then (n, t) :: es else (n, u) :: insertEntry name t es

/-- Binds a name. -/
def insert (s : Bindings) (name : String) (t : TypeRef) : Bindings :=
  ⟨insertEntry name t s.entries⟩

/-- Binds the names one after the other. -/
def insertAll (s : Bindings) (entries : List (String × TypeRef)) : Bindings :=
  entries.foldl (fun s e => s.insert e.1 e.2) s

/-- Binds the parameters to the arguments, as far as both lists reach. -/
def ofParameters (names : List String) (args : List TypeRef) : Bindings :=
  empty.insertAll (names.zip args)

theorem lookup_insertEntry (name : String) (t : TypeRef) (es : List (String × TypeRef))
    (other : String) :
    (insertEntry name t es).lookup other = if other = name then some t else es.lookup other := by
  induction es with
  | nil => by_cases h : other = name <;> simp [insertEntry, List.lookup_cons, h, beq_false_of_ne]
  | cons e es ih =>
    obtain ⟨n, u⟩ := e
    by_cases hn : n = name
    · subst hn
      by_cases h : other = n <;> simp [insertEntry, List.lookup_cons, h, beq_false_of_ne]
    · by_cases h : other = n
      · subst h; simp [insertEntry, hn]
      · simp [insertEntry, List.lookup_cons, hn, h, ih, beq_false_of_ne]

/-- Looking up a name after a binding. -/
@[simp] theorem get?_insert (s : Bindings) (name : String) (t : TypeRef) (other : String) :
    (s.insert name t).get? other = if other = name then some t else s.get? other :=
  lookup_insertEntry name t s.entries other

@[simp] theorem get?_empty (name : String) : empty.get? name = none := rfl

end Bindings

namespace TypeRef

/-- The array type of `dimensions` dimensions over `element`, the dimensions of an array element
added to them without a limit. -/
def arrayOver (dimensions : Nat) : TypeRef → TypeRef
  | .array element inner => .array element (dimensions + inner)
  | element => .array element dimensions

mutual

/-- Replaces every bound name by its type. -/
def subst (s : Bindings) : TypeRef → TypeRef
  | .raw name => (s.get? name).getD (.raw name)
  | .id name => (s.get? name).getD (.id name)
  | .generic base args => .generic (base.subst s) (substList s args)
  | .array element dimensions => (element.subst s).arrayOver dimensions
  | .wildcard none isUpper => .wildcard none isUpper
  | .wildcard (some bound) isUpper => .wildcard (some (bound.subst s)) isUpper
  | .map entries => .map (substEntries s entries)
  | .unknown => .unknown

/-- `subst` on each type. -/
def substList (s : Bindings) : List TypeRef → List TypeRef
  | [] => []
  | t :: ts => t.subst s :: substList s ts

/-- `subst` on each labelled type. -/
def substEntries (s : Bindings) : List (String × TypeRef) → List (String × TypeRef)
  | [] => []
  | (label, t) :: es => (label, t.subst s) :: substEntries s es

end

@[simp] theorem substList_eq_map (s : Bindings) (ts : List TypeRef) :
    substList s ts = ts.map (subst s) := by
  induction ts with
  | nil => rfl
  | cons t ts ih => simp [substList, ih]

@[simp] theorem substEntries_eq_map (s : Bindings) (es : List (String × TypeRef)) :
    substEntries s es = es.map fun e => (e.1, e.2.subst s) := by
  induction es with
  | nil => rfl
  | cons e es ih => obtain ⟨l, t⟩ := e; simp [substEntries, ih]

end TypeRef
end GroovyNew
