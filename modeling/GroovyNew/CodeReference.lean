/-
# Class references as written in code

`new java.util.ArrayList<String>()` names its class by a code reference: a name, simple or
qualified, and type arguments, which are references in turn.  The text of a reference is type text
without arrays and wildcards.
-/

import GroovyNew.ArgumentError
import GroovyNew.Name

namespace GroovyNew

/-- A class name with type arguments. -/
structure CodeReference where
  name : String
  typeArgs : List CodeReference := []
  deriving Inhabited, Repr

namespace CodeReference

/-- The last segment of the name. -/
def simpleName (r : CodeReference) : String := Name.lastSegment r.name

/-- The name has more than one segment. -/
def isQualified (r : CodeReference) : Bool := r.name.toList.contains '.'

mutual

/-- The reference that a type writes.  The type arguments of the outermost type are the reference's;
arguments of its base are dropped. -/
def ofType : TypeRef → Except ArgumentError CodeReference
  | .raw name => .ok ⟨name, []⟩
  | .id name => .ok ⟨name, []⟩
  | .generic base args =>
    match ofType base with
    | .error e => .error e
    | .ok r =>
      match ofTypes args with
      | .error e => .error e
      | .ok rs => .ok ⟨r.name, rs⟩
  | t => .error (.notClassReference t)

/-- `ofType` on each type; the first type that is no reference is reported. -/
def ofTypes : List TypeRef → Except ArgumentError (List CodeReference)
  | [] => .ok []
  | t :: ts =>
    match ofType t with
    | .error e => .error e
    | .ok r =>
      match ofTypes ts with
      | .error e => .error e
      | .ok rs => .ok (r :: rs)

end

/-- The reference that a text writes. -/
def ofText (text : String) : Except ArgumentError CodeReference :=
  match TypeRef.ofText text with
  | .error e => .error e
  | .ok t => ofType t

mutual

/-- The text of a reference. -/
def toText : CodeReference → String
  | ⟨name, []⟩ => name
  | ⟨name, args⟩ => name ++ "<" ++ argsText args ++ ">"

/-- The texts of references, separated by a comma and a blank. -/
def argsText : List CodeReference → String
  | [] => ""
  | [r] => r.toText
  | r :: rs => r.toText ++ ", " ++ argsText rs

end

end CodeReference
end GroovyNew
