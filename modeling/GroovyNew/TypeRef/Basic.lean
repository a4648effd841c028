/-
# Types as they are written and inferred

`TypeRef` is the type of an expression, a parameter or a class reference.  Names are not resolved in
it: `id` holds a class name exactly as some source spells it, simple or qualified, and `raw` holds a
primitive or `void`.

| constructor | text |
| --- | --- |
| `raw`, `id` | the name |
| `generic` | `Base<A, B>` |
| `array` | the element, then `[]` once for each dimension |
| `wildcard` | `?`, `? extends B`, `? super B` |
| `map` | `[a: T, b: U]`, the type of a map literal; `[:]` without entries |
| `unknown` | `?unknown` |

Two arrays of the same type can be written in two ways, `(T[])[]` and `T[][]`; `TypeRef.arrayOf`
builds the second, in which no array has an array as its element.  Dimensions are any numbers here.
-/

namespace GroovyNew

/-- A type. -/
inductive TypeRef where
  /-- A primitive type or `void`. -/
  | raw (name : String)
  /-- A class, by its name. -/
  | id (name : String)
  /-- A class with type arguments. -/
  | generic (base : TypeRef) (args : List TypeRef)
  /-- An array of the given number of dimensions. -/
  | array (element : TypeRef) (dimensions : Nat)
  /-- A wildcard; its bound is an upper bound (`extends`) or a lower one (`super`). -/
  | wildcard (bound : Option TypeRef) (isUpper : Bool)
  /-- A map literal, by the types of its labelled values. -/
  | map (entries : List (String × TypeRef))
  /-- A type about which nothing is known. -/
  | unknown
  deriving Inhabited, Repr

namespace TypeRef

/-! ### Names with a meaning of their own -/

/-- The root of the class hierarchy. -/
def objectName : String := "java.lang.Object"

/-- The class of string literals. -/
def stringName : String := "java.lang.String"

/-- The interface of all maps. -/
def mapName : String := "java.util.Map"

/-- The class of map literals. -/
def mapLiteralName : String := "java.util.LinkedHashMap"

/-- The eight primitive types. -/
def primitiveNames : List String :=
  ["boolean", "byte", "short", "char", "int", "long", "float", "double"]

/-- The name of a primitive type. -/
def isPrimitiveName (name : String) : Bool := primitiveNames.contains name

/-- A name that denotes no class: a primitive type or `void`. -/
def isRawName (name : String) : Bool := isPrimitiveName name || name == "void"

/-- The type that a name denotes before it is resolved. -/
def named (name : String) : TypeRef := if isRawName name then .raw name else .id name

/-! ### Shape -/

/-- A primitive type. -/
def isPrimitive : TypeRef → Bool
  | .raw name => isPrimitiveName name
  | _ => false

/-- The type about which nothing is known. -/
def isUnknown : TypeRef → Bool
  | .unknown => true
  | _ => false

/-- A primitive type or `void`. -/
def isRaw : TypeRef → Bool
  | .raw _ => true
  | _ => false

/-- The array type with the given element type, in flat form. -/
def arrayOf : TypeRef → TypeRef
  | .array element dimensions => .array element (dimensions + 1)
  | element => .array element 1

/-- The element type of an array type: one dimension less. -/
def element? : TypeRef → Option TypeRef
  | .array element dimensions =>
    some (if dimensions > 1 then .array element (dimensions - 1) else element)
  | _ => none

/-- The class of a type after erasure of type arguments. -/
def erasure? : TypeRef → Option String
  | .id name => some name
  | .generic base _ => base.erasure?
  | .map _ => some mapLiteralName
  | _ => none

theorem element?_arrayOf {t : TypeRef} (h : ∀ e, t ≠ .array e 0) :
    (arrayOf t).element? = some t := by
  cases t with
  | array e n =>
    cases n with
    | zero => exact absurd rfl (h e)
    | succ n => simp [arrayOf, element?]
  | _ => simp [arrayOf, element?]

/-! ### Equality is decidable -/

mutual

/-- Decides whether two types are the same. -/
def decEq : (a b : TypeRef) → Decidable (a = b)
  | .raw n, b => match b with
    | .raw m => decidable_of_iff (n = m) (by simp)
    | .id _ | .generic .. | .array .. | .wildcard .. | .map _ | .unknown => isFalse nofun
  | .id n, b => match b with
    | .id m => decidable_of_iff (n = m) (by simp)
    | .raw _ | .generic .. | .array .. | .wildcard .. | .map _ | .unknown => isFalse nofun
  | .generic s as, b => match b with
    | .generic t bs =>
      match decEq s t, decEqList as bs with
      | isTrue h, isTrue hs => isTrue (by rw [h, hs])
      | isFalse h, _ => isFalse (by simp [h])
      | _, isFalse h => isFalse (by simp [h])
    | .raw _ | .id _ | .array .. | .wildcard .. | .map _ | .unknown => isFalse nofun
  | .array s m, b => match b with
    | .array t n =>
      match decEq s t, Nat.decEq m n with
      | isTrue h, isTrue hn => isTrue (by rw [h, hn])
      | isFalse h, _ => isFalse (by simp [h])
      | _, isFalse h => isFalse (by simp [h])
    | .raw _ | .id _ | .generic .. | .wildcard .. | .map _ | .unknown => isFalse nofun
  | .wildcard none u, b => match b with
    | .wildcard none v => decidable_of_iff (u = v) (by simp)
    | .wildcard (some _) _ => isFalse nofun
    | .raw _ | .id _ | .generic .. | .array .. | .map _ | .unknown => isFalse nofun
  | .wildcard (some s) u, b => match b with
    | .wildcard (some t) v =>
      match decEq s t, Bool.decEq u v with
      | isTrue h, isTrue hu => isTrue (by rw [h, hu])
      | isFalse h, _ => isFalse (by simp [h])
      | _, isFalse h => isFalse (by simp [h])
    | .wildcard none _ => isFalse nofun
    | .raw _ | .id _ | .generic .. | .array .. | .map _ | .unknown => isFalse nofun
  | .map es, b => match b with
    | .map fs =>
      match decEqEntries es fs with
      | isTrue h => isTrue (by rw [h])
      | isFalse h => isFalse (by simp [h])
    | .raw _ | .id _ | .generic .. | .array .. | .wildcard .. | .unknown => isFalse nofun
  | .unknown, b => match b with
    | .unknown => isTrue rfl
    | .raw _ | .id _ | .generic .. | .array .. | .wildcard .. | .map _ => isFalse nofun

/-- Decides whether two lists of types are the same. -/
def decEqList : (as bs : List TypeRef) → Decidable (as = bs)
  | [], [] => isTrue rfl
  | [], _ :: _ | _ :: _, [] => isFalse nofun
  | a :: as, b :: bs =>
    match decEq a b, decEqList as bs with
    | isTrue h, isTrue hs => isTrue (by rw [h, hs])
    | isFalse h, _ => isFalse (by simp [h])
    | _, isFalse h => isFalse (by simp [h])

/-- Decides whether two lists of labelled types are the same. -/
def decEqEntries : (es fs : List (String × TypeRef)) → Decidable (es = fs)
  | [], [] => isTrue rfl
  | [], _ :: _ | _ :: _, [] => isFalse nofun
  | (k, a) :: es, (l, b) :: fs =>
    match decEq a b, decEqEntries es fs with
    | isTrue h, isTrue hs => decidable_of_iff (k = l) (by simp [h, hs])
    | isFalse h, _ => isFalse (by simp [h])
    | _, isFalse h => isFalse (by simp [h])

end

instance : DecidableEq TypeRef := decEq

/-! ### Text -/

mutual

/-- The text of a type. -/
def toText : TypeRef → String
  | .raw name => name
  | .id name => name
  | .generic base args => base.toText ++ "<" ++ argsText args ++ ">"
  | .array element dimensions =>
    element.toText ++ String.join (List.replicate dimensions "[]")
  | .wildcard none _ => "?"
  | .wildcard (some bound) true => "? extends " ++ bound.toText
  | .wildcard (some bound) false => "? super " ++ bound.toText
  | .map [] => "[:]"
  | .map entries => "[" ++ entriesText entries ++ "]"
  | .unknown => "?unknown"

/-- The texts of type arguments, separated by a comma and a blank. -/
def argsText : List TypeRef → String
  | [] => ""
  | [t] => t.toText
  | t :: ts => t.toText ++ ", " ++ argsText ts

/-- The texts of labelled types, separated by a comma and a blank. -/
def entriesText : List (String × TypeRef) → String
  | [] => ""
  | [(label, t)] => label ++ ": " ++ t.toText
  | (label, t) :: es => label ++ ": " ++ t.toText ++ ", " ++ entriesText es

end

end TypeRef
end GroovyNew
