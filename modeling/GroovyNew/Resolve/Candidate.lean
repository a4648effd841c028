/-
# What resolution produces

A reference denotes classes or a package (`ReferenceResult`).  A class candidate carries the
bindings of its type parameters by the type arguments of the reference.  A constructor candidate is
a declared constructor seen through a class candidate: its parameters have the bindings applied, and
a constructor of an inner class has the enclosing instance as its first parameter.
-/

import GroovyNew.TypeInfo

namespace GroovyNew

/-- A class that a reference may denote. -/
structure ClassCandidate where
  info : TypeInfo
  /-- The type parameters bound by explicit type arguments. -/
  substitution : Bindings := {}
  deriving DecidableEq, Inhabited, Repr

namespace ClassCandidate

/-- The name of the class. -/
def fqn (c : ClassCandidate) : String := c.info.fqn

/-- The class with its type arguments; an unbound parameter shows as unknown, and a class without
any binding as the bare class. -/
def type (c : ClassCandidate) : TypeRef :=
  if c.substitution.isEmpty then .id c.fqn
  else .generic (.id c.fqn)
    (c.info.typeParameters.map fun p => (c.substitution.get? p.name).getD .unknown)

end ClassCandidate

/-- What a reference may denote. -/
inductive ReferenceResult where
  | candidate (c : ClassCandidate)
  | package (name : String)
  deriving DecidableEq, Inhabited, Repr

namespace ReferenceResult

/-- The class that a result denotes. -/
def candidate? : ReferenceResult → Option ClassCandidate
  | .candidate c => some c
  | .package _ => none

/-- The classes among results. -/
def candidates (results : List ReferenceResult) : List ClassCandidate :=
  results.filterMap candidate?

end ReferenceResult

/-- A constructor seen through a class candidate. -/
structure ConstructorCandidate where
  member : MemberInfo
  /-- The type of the enclosing instance that the constructor of an inner class takes. -/
  enclosing : Option TypeRef
  /-- The declared parameters with the type parameters replaced. -/
  declared : List ParameterInfo
  deriving DecidableEq, Inhabited, Repr

namespace ConstructorCandidate

/-- The candidate for a member under bindings of the class's type parameters. -/
def ofMember (member : MemberInfo) (s : Bindings) (enclosing : Option TypeRef) :
    ConstructorCandidate where
  member
  enclosing
  declared := (member.parameters.getD []).map (·.subst s)

/-- The parameters that arguments are matched against: the enclosing instance, if there is one, and
the declared parameters. -/
def effective (c : ConstructorCandidate) : List ParameterInfo :=
  match c.enclosing with
  | some t => { name := "this$0", type := t } :: c.declared
  | none => c.declared

/-- The constructor as a user reads it: `Point(int x, int y)`.  `signature?` asks first whether there is such
a text. -/
def signature (c : ConstructorCandidate) : String :=
  c.member.name ++ "(" ++ String.intercalate ", " (c.declared.map ParameterInfo.toText) ++ ")"

/-- The signature, if each declared parameter has a text and memory can hold them all. -/
def signature? (c : ConstructorCandidate) : Option String :=
  if c.declared.all ParameterInfo.isWritable && c.signature.utf8ByteSize < textLimit then
    some c.signature
  else none

end ConstructorCandidate

/-- Whether a result has been checked against argument types. -/
inductive Applicability where
  | applicable
  /-- Nothing was checked. -/
  | unknown
  deriving DecidableEq, Inhabited, Repr

/-- A constructor that a call may invoke; none for a class without declared constructors. -/
structure ResolveResult where
  classFqn : String
  constructor : Option ConstructorCandidate
  applicability : Applicability
  /-- The type parameters bound by explicit type arguments. -/
  substitution : Bindings
  deriving DecidableEq, Inhabited, Repr

namespace ResolveResult

/-- The result has been checked against argument types. -/
def isValid (r : ResolveResult) : Bool := r.applicability == .applicable

/-- The result names a class without declared constructors. -/
def isClassOnly (r : ResolveResult) : Bool := r.constructor.isNone

end ResolveResult

/-! ### JSON -/

/-- Writes what a reference denotes. -/
def ReferenceResult.toJson : ReferenceResult → Json
  | .candidate c =>
    .record [("kind", .text "class"), ("info", c.info.toJson),
      ("substitutor", c.substitution.toJson)]
  | .package name => .record [("kind", .text "package"), ("name", .text name)]

/-- Writes a constructor candidate. -/
def ConstructorCandidate.toJson (c : ConstructorCandidate) : Json :=
  .record [("member", c.member.toJson), ("enclosing", .optional TypeRef.toJson c.enclosing),
    ("parameters", .arr (c.effective.map ParameterInfo.toJson))]

/-- The name of an applicability. -/
def Applicability.name : Applicability → String
  | .applicable => "applicable"
  | .unknown => "unknown"

/-- Writes a result. -/
def ResolveResult.toJson (r : ResolveResult) : Json :=
  .record [("class_fqn", .text r.classFqn),
    ("constructor", .optional ConstructorCandidate.toJson r.constructor),
    ("applicability", .text r.applicability.name),
    ("substitutor", r.substitution.toJson)]

end GroovyNew
