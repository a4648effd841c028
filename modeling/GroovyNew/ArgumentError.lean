/-
# Refused arguments

What a caller can hand in that no operation accepts: a type text that is no type, a type where a
class reference is due, a class declared twice.
-/

import GroovyNew.TypeRef.Parser

namespace GroovyNew

/-- Why an argument is refused. -/
inductive ArgumentError where
  /-- The text is no type. -/
  | typeText (fault : TypeText.Fault) (text : String)
  /-- The type is an array, a wildcard or some other type that names no class. -/
  | notClassReference (type : TypeRef)
  /-- Two declarations of one class. -/
  | declaredTwice (fqn : String)
  deriving DecidableEq, Repr

namespace ArgumentError

/-- The cause in words. -/
def detail : ArgumentError → String
  | .typeText fault text =>
    s!"{fault.problem.message} at offset {fault.offset} in type `{text}`"
  | .notClassReference type => s!"`{type.toText}` is not a class reference"
  | .declaredTwice fqn => s!"class `{fqn}` is declared twice"

/-- The message for the user. -/
def message (e : ArgumentError) : String := "Invalid argument: " ++ e.detail

end ArgumentError

/-- The type that a text denotes. -/
def TypeRef.ofText (text : String) : Except ArgumentError TypeRef :=
  (TypeText.parse text).mapError (.typeText · text)

end GroovyNew
