/-
# Types with resolved names

`TypeRef.normalize` replaces every name in a type by the class that it denotes.  Primitives and
`void` are raw types, type parameters in scope keep their names, and a name that denotes nothing is
left as it is.
-/

import GroovyNew.CodeReference
import GroovyNew.TypeSystem

namespace GroovyNew

namespace TypeRef

/-- The type that a name denotes, given what class names and which type parameters mean. -/
def resolveName (typeName? : String → Option String) (typeParameters : List String)
    (name : String) : TypeRef :=
  if isRawName name then .raw name
  else if typeParameters.contains name then .id name
  else .id ((typeName? name).getD name)

mutual

/-- The type with its names resolved. -/
def normalize (typeName? : String → Option String) (typeParameters : List String) :
    TypeRef → TypeRef
  | .raw name => resolveName typeName? typeParameters name
  | .id name => resolveName typeName? typeParameters name
  | .generic base args =>
    .generic (base.normalize typeName? typeParameters)
      (normalizeList typeName? typeParameters args)
  | .array element dimensions =>
    .array (element.normalize typeName? typeParameters) dimensions
  | .wildcard none isUpper => .wildcard none isUpper
  | .wildcard (some bound) isUpper =>
    .wildcard (some (bound.normalize typeName? typeParameters)) isUpper
  | .map entries => .map (normalizeEntries typeName? typeParameters entries)
  | .unknown => .unknown

/-- `normalize` on each type. -/
def normalizeList (typeName? : String → Option String) (typeParameters : List String) :
    List TypeRef → List TypeRef
  | [] => []
  | t :: ts =>
    t.normalize typeName? typeParameters :: normalizeList typeName? typeParameters ts

/-- `normalize` on each labelled type. -/
def normalizeEntries (typeName? : String → Option String) (typeParameters : List String) :
    List (String × TypeRef) → List (String × TypeRef)
  | [] => []
  | (label, t) :: es =>
    (label, t.normalize typeName? typeParameters) ::
      normalizeEntries typeName? typeParameters es

end

@[simp] theorem normalizeList_eq_map (typeName? : String → Option String)
    (typeParameters : List String) (ts : List TypeRef) :
    normalizeList typeName? typeParameters ts = ts.map (normalize typeName? typeParameters) := by
  induction ts with
  | nil => rfl
  | cons t ts ih => simp [normalizeList, ih]

@[simp] theorem normalizeEntries_eq_map (typeName? : String → Option String)
    (typeParameters : List String) (es : List (String × TypeRef)) :
    normalizeEntries typeName? typeParameters es =
      es.map fun e => (e.1, e.2.normalize typeName? typeParameters) := by
  induction es with
  | nil => rfl
  | cons e es ih => obtain ⟨l, t⟩ := e; simp [normalizeEntries, ih]

end TypeRef

namespace TypeSystem

/-- The type with the meaning that its names have in a scope. -/
def normalize (ts : TypeSystem) (scope : Scope) (t : TypeRef) : TypeRef :=
  t.normalize (ts.typeName? · scope) scope.typeParameters

end TypeSystem

namespace CodeReference

mutual

/-- The type that a reference denotes in a scope. -/
def type (ts : TypeSystem) (scope : Scope) : CodeReference → TypeRef
  | ⟨name, []⟩ => ts.normalize scope (.id name)
  | ⟨name, args⟩ => .generic (ts.normalize scope (.id name)) (types ts scope args)

/-- `type` of each reference. -/
def types (ts : TypeSystem) (scope : Scope) : List CodeReference → List TypeRef
  | [] => []
  | r :: rs => r.type ts scope :: types ts scope rs

end

@[simp] theorem types_eq_map (ts : TypeSystem) (scope : Scope) (rs : List CodeReference) :
    types ts scope rs = rs.map (type ts scope) := by
  induction rs with
  | nil => rfl
  | cons r rs ih => simp [types, ih]

end CodeReference
end GroovyNew
