/-
# What a class name denotes

A simple name is searched in stages, and the first stage that finds a class ends the search:

0. the types that the file declares;
1. the classes around the place and their member classes, from the inside out;
2. the imports of single classes;
3. the package of the file;
4. the on-demand imports, of which several may find a class each;
5. the default imports, single classes before packages;
6. the classes without package.

A dotted name is a known class of exactly that name, or the member of a class that its first segment
denotes.
-/

import GroovyNew.ClassIndex.Basic
import GroovyNew.TypeSystem

namespace GroovyNew
namespace ClassIndex

/-- The type declared by the file under a simple name. -/
def declaredType? (scope : Scope) (name : String) : Option String :=
  scope.declaredTypes.find? (Name.isMemberNamed · name)

/-- The class of a chain of classes that has the simple name, or a member of that name. -/
def memberInChain? (index : ClassIndex) (name : String) : (chain : List String) → Option String
  | [] => none
  | c :: chain =>
    if Name.lastSegment c = name then some c
    else if index.declares (Name.qualify c name) then some (Name.qualify c name)
    else memberInChain? index name chain

/-- The class around the place, or a member of one, that has the simple name. -/
def memberType? (index : ClassIndex) (scope : Scope) (name : String) : Option String :=
  match scope.enclosingClass with
  | some c => index.memberInChain? name (index.outerChain c)
  | none => none

/-- The class imported by a single import under a simple name. -/
def singleImport? (scope : Scope) (name : String) : Option String :=
  scope.imports.find? (Name.isMemberNamed · name)

/-- The known class of the file's package with a simple name. -/
def packageMember? (index : ClassIndex) (scope : Scope) (name : String) : Option String :=
  match scope.package with
  | some p => if index.knows (Name.qualify p name) then some (Name.qualify p name) else none
  | none => none

/-- The known classes that the on-demand imports give for a simple name, each once. -/
def onDemandImports (index : ClassIndex) (name : String) : (imports : List String) →
    (hits : List String) → List String
  | [], hits => hits
  | i :: imports, hits =>
    match Name.onDemand? i with
    | some p =>
      let fqn := Name.qualify p name
      if index.knows fqn && !hits.contains fqn then
        onDemandImports index name imports (hits ++ [fqn])
      else onDemandImports index name imports hits
    | none => onDemandImports index name imports hits

/-- The class that the default imports give for a simple name. -/
def defaultImport? (index : ClassIndex) (name : String) : Option String :=
  match WellKnown.defaultClasses.find? (Name.lastSegment · == name) with
  | some c => some c
  | none => (WellKnown.defaultPackages.map (Name.qualify · name)).find? index.knows

/-- The classes that a simple name may denote. -/
def simpleCandidates (index : ClassIndex) (scope : Scope) (name : String) : List String :=
  match declaredType? scope name with
  | some fqn => [fqn]
  | none =>
  match index.memberType? scope name with
  | some fqn => [fqn]
  | none =>
  match singleImport? scope name with
  | some fqn => [fqn]
  | none =>
  match index.packageMember? scope name with
  | some fqn => [fqn]
  | none =>
  match index.onDemandImports name scope.imports [] with
  | fqn :: fqns => fqn :: fqns
  | [] =>
  match index.defaultImport? name with
  | some fqn => [fqn]
  | none => if index.knows name then [name] else []

/-- The classes that a name may denote. -/
def candidates (index : ClassIndex) (scope : Scope) (name : String) : List String :=
  match Name.splitFirst? name with
  | none => index.simpleCandidates scope name
  | some (head, rest) =>
    if index.knows name then [name]
    else ((index.simpleCandidates scope head).map (Name.qualify · rest)).filter index.knows

/-- The class that a name denotes: the first candidate. -/
def typeName? (index : ClassIndex) (scope : Scope) (name : String) : Option String :=
  (index.candidates scope name).head?

/-- The name is no known class, but the beginning of a known class's name. -/
def isPackage (index : ClassIndex) (name : String) : Bool :=
  !index.knows name &&
    (index.names.any (Name.isInside · name) || !(WellKnown.inPackage name).isEmpty)

/-- The index as a source of knowledge. -/
def typeSystem (index : ClassIndex) : TypeSystem where
  typeInfo? := index.typeInfo?
  typeName? name scope := index.typeName? scope name
  typeCandidates name scope := index.candidates scope name
  isPackage := index.isPackage
  superclass? fqn := (index.find? fqn).bind (·.superclass)
  interfaces fqn := ((index.find? fqn).map (·.interfaces)).getD []
  ancestors := index.ancestors
  constructors := index.constructors
  nesting := index.size

end ClassIndex
end GroovyNew
