/-
# Indexing declarations

The classes are entered first and the constructors second, because the type of a parameter may name
any declared class.  A parameter type is read from its text and resolved in the scope of its class:
the package, the classes around it, its type parameters.

Indexing fails on a class declared twice, else on the first parameter type that is no type.
-/

import GroovyNew.ArgumentError
import GroovyNew.ClassIndex.Lookup
import GroovyNew.Normalize

namespace GroovyNew
namespace ClassIndex

/-- The declared class without its constructors. -/
def entryOf (d : ClassDecl) : IndexedClass where
  info := d.info
  superclass := d.superclass
  interfaces := d.interfaces
  constructors := []

/-- Enters the declarations one by one, refusing a name that is already entered. -/
def enter (index : ClassIndex) : List ClassDecl → Except ArgumentError ClassIndex
  | [] => .ok index
  | d :: ds =>
    if index.declares d.fqn then .error (.declaredTwice d.fqn)
    else enter ⟨index.classes ++ [entryOf d]⟩ ds

/-- The scope in which the parameter types of a class are read. -/
def scopeOf (index : ClassIndex) (d : ClassDecl) : Scope where
  package := index.packageOf? d.fqn
  enclosingClass := some d.fqn
  typeParameters := d.typeParameters

/-- The parameter that a declaration in a scope describes. -/
def parameter (index : ClassIndex) (scope : Scope) (p : ParameterDecl) :
    Except ArgumentError ParameterInfo :=
  match TypeRef.ofText p.type with
  | .error e => .error e
  | .ok t =>
    let t := t.normalize (index.typeName? scope) scope.typeParameters
    .ok (if p.varargs then .varargs p.name t else { name := p.name, type := t })

/-- The constructor that a declaration describes.  Its full name tells the parameter types. -/
def constructor (index : ClassIndex) (d : ClassDecl) (c : ConstructorDecl) :
    Except ArgumentError MemberInfo :=
  match c.parameters.mapM (index.parameter (index.scopeOf d)) with
  | .error e => .error e
  | .ok parameters =>
    let name := Name.lastSegment d.fqn
    let types := String.intercalate "," (parameters.map fun p => p.type.toText)
    .ok {
      name
      fqn := d.fqn ++ "#" ++ name ++ "(" ++ types ++ ")"
      kind := .constructor
      declaringType := d.fqn
      type := .id d.fqn
      parameters := some parameters
      modifiers := c.modifiers }

/-- The declared class with its constructors. -/
def complete (index : ClassIndex) (d : ClassDecl) : Except ArgumentError IndexedClass :=
  match d.constructors.mapM (index.constructor d) with
  | .error e => .error e
  | .ok constructors => .ok { entryOf d with constructors }

/-- The index of the declarations. -/
def ofDecls (ds : List ClassDecl) : Except ArgumentError ClassIndex :=
  match enter {} ds with
  | .error e => .error e
  | .ok index =>
    match ds.mapM index.complete with
    | .error e => .error e
    | .ok classes => .ok ⟨classes⟩

end ClassIndex
end GroovyNew
