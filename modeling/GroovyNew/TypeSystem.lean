/-
# Sources of class knowledge

A `TypeSystem` answers the questions that inference and resolution ask about classes: what a name
may denote in a scope, what a class is, what it inherits from, how it is constructed.  Resolution is
written against these answers alone, so it serves an index of declarations
(`ClassIndex.typeSystem`), no knowledge at all (`TypeSystem.empty`), or any other source.
-/

import GroovyNew.TypeInfo

namespace GroovyNew

/-- What decides the meaning of a class name at some place of a file. -/
structure Scope where
  /-- The package of the file. -/
  package : Option String := none
  /-- The imports of the file, in order; `p.*` imports a package on demand. -/
  imports : List String := []
  /-- The class around the place. -/
  enclosingClass : Option String := none
  /-- The type parameters visible at the place. -/
  typeParameters : List String := []
  /-- The types that the file itself declares. -/
  declaredTypes : List String := []
  deriving DecidableEq, Inhabited, Repr

/-- A source of knowledge about classes. -/
structure TypeSystem where
  /-- The description of a class. -/
  typeInfo? : String → Option TypeInfo
  /-- The class that a name denotes in a scope. -/
  typeName? : String → Scope → Option String
  /-- Every class that a name may denote in a scope, in resolution order.  More than one makes the
  name ambiguous. -/
  typeCandidates : String → Scope → List String
  /-- The name denotes a package. -/
  isPackage : String → Bool
  /-- The direct superclass of a class. -/
  superclass? : String → Option String
  /-- The interfaces that a class names directly. -/
  interfaces : String → List String
  /-- All that a class inherits from, nearest first. -/
  ancestors : String → List String
  /-- The declared constructors of a class, in declaration order. -/
  constructors : String → List MemberInfo
  /-- No class is nested deeper than this in inner classes. -/
  nesting : Nat

namespace TypeSystem

/-- The type system that knows nothing. -/
def empty : TypeSystem where
  typeInfo? _ := none
  typeName? _ _ := none
  typeCandidates _ _ := []
  isPackage _ := false
  superclass? _ := none
  interfaces _ := []
  ancestors _ := []
  constructors _ := []
  nesting := 0

end TypeSystem
end GroovyNew
