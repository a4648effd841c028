/-
# Well-known classes

The classes of the standard libraries that resolution knows without a declaration: what they are and
what they inherit from, each list of ancestors complete and in a fixed order.  Here are also the
pairs of primitive types and their boxes, and the packages and classes that every source file
imports.
-/

import GroovyNew.Name
import GroovyNew.TypeInfo

namespace GroovyNew
namespace WellKnown

/-- The packages that every file imports. -/
def defaultPackages : List String :=
  ["java.lang", "java.util", "java.io", "java.net", "groovy.lang", "groovy.util"]

/-- The single classes that every file imports. -/
def defaultClasses : List String := ["java.math.BigDecimal", "java.math.BigInteger"]

/-- The primitive types and the classes of their boxes. -/
def boxes : List (String × String) :=
  [("boolean", "java.lang.Boolean"), ("byte", "java.lang.Byte"), ("short", "java.lang.Short"),
    ("char", "java.lang.Character"), ("int", "java.lang.Integer"), ("long", "java.lang.Long"),
    ("float", "java.lang.Float"), ("double", "java.lang.Double")]

/-- The box of a primitive type. -/
def boxed? (primitive : String) : Option String :=
  (boxes.find? fun pair => pair.1 == primitive).map (·.2)

/-- The primitive type of a box. -/
def unboxed? (fqn : String) : Option String :=
  (boxes.find? fun pair => pair.2 == fqn).map (·.1)

/-- A well-known class. -/
structure Entry where
  fqn : String
  kind : TypeKind
  ancestors : List String

/-- What the number classes inherit from. -/
def numberAncestors : List String :=
  ["java.lang.Number", "java.lang.Comparable", "java.io.Serializable", "java.lang.Object"]

/-- What text and boxed classes that can be compared inherit from. -/
def comparableAncestors : List String :=
  ["java.lang.Comparable", "java.io.Serializable", "java.lang.Object"]

/-- What the text classes inherit from. -/
def textAncestors : List String := "java.lang.CharSequence" :: comparableAncestors

/-- What every map that can be cloned inherits from after its own superclasses. -/
def mapClassAncestors : List String :=
  ["java.util.Map", "java.lang.Cloneable", "java.io.Serializable", "java.lang.Object"]

/-- The well-known classes. -/
def table : List Entry :=
  [⟨"java.lang.Object", .classType, []⟩,
    ⟨"java.io.Serializable", .interfaceType, ["java.lang.Object"]⟩,
    ⟨"java.lang.Cloneable", .interfaceType, ["java.lang.Object"]⟩,
    ⟨"java.lang.Comparable", .interfaceType, ["java.lang.Object"]⟩,
    ⟨"java.lang.CharSequence", .interfaceType, ["java.lang.Object"]⟩,
    ⟨"java.lang.Iterable", .interfaceType, ["java.lang.Object"]⟩,
    ⟨"java.lang.String", .classType, textAncestors⟩,
    ⟨"groovy.lang.GString", .classType, textAncestors⟩,
    ⟨"java.lang.Number", .classType, ["java.io.Serializable", "java.lang.Object"]⟩,
    ⟨"java.lang.Boolean", .classType, comparableAncestors⟩,
    ⟨"java.lang.Character", .classType, comparableAncestors⟩,
    ⟨"java.lang.Byte", .classType, numberAncestors⟩,
    ⟨"java.lang.Short", .classType, numberAncestors⟩,
    ⟨"java.lang.Integer", .classType, numberAncestors⟩,
    ⟨"java.lang.Long", .classType, numberAncestors⟩,
    ⟨"java.lang.Float", .classType, numberAncestors⟩,
    ⟨"java.lang.Double", .classType, numberAncestors⟩,
    ⟨"java.math.BigInteger", .classType, numberAncestors⟩,
    ⟨"java.math.BigDecimal", .classType, numberAncestors⟩,
    ⟨"java.util.Map", .interfaceType, ["java.lang.Object"]⟩,
    ⟨"java.util.SortedMap", .interfaceType, ["java.util.Map", "java.lang.Object"]⟩,
    ⟨"java.util.NavigableMap", .interfaceType,
      ["java.util.SortedMap", "java.util.Map", "java.lang.Object"]⟩,
    ⟨"java.util.AbstractMap", .classType, ["java.util.Map", "java.lang.Object"]⟩,
    ⟨"java.util.HashMap", .classType, "java.util.AbstractMap" :: mapClassAncestors⟩,
    ⟨"java.util.LinkedHashMap", .classType,
      "java.util.HashMap" :: "java.util.AbstractMap" :: mapClassAncestors⟩,
    ⟨"java.util.TreeMap", .classType,
      "java.util.AbstractMap" :: "java.util.NavigableMap" :: "java.util.SortedMap" ::
        mapClassAncestors⟩,
    ⟨"java.util.Collection", .interfaceType, ["java.lang.Iterable", "java.lang.Object"]⟩,
    ⟨"java.util.List", .interfaceType,
      ["java.util.Collection", "java.lang.Iterable", "java.lang.Object"]⟩,
    ⟨"java.util.RandomAccess", .interfaceType, ["java.lang.Object"]⟩,
    ⟨"java.util.AbstractCollection", .classType,
      ["java.util.Collection", "java.lang.Iterable", "java.lang.Object"]⟩,
    ⟨"java.util.AbstractList", .classType,
      ["java.util.AbstractCollection", "java.util.List", "java.util.Collection",
        "java.lang.Iterable", "java.lang.Object"]⟩,
    ⟨"java.util.ArrayList", .classType,
      ["java.util.AbstractList", "java.util.AbstractCollection", "java.util.List",
        "java.util.Collection", "java.lang.Iterable", "java.util.RandomAccess",
        "java.lang.Cloneable", "java.io.Serializable", "java.lang.Object"]⟩]

/-- The entry of a class. -/
def find? (fqn : String) : Option Entry := table.find? fun entry => entry.fqn == fqn

/-- The class is in the table. -/
def contains (fqn : String) : Bool := (find? fqn).isSome

/-- The description of a well-known class. -/
def typeInfo? (fqn : String) : Option TypeInfo :=
  (find? fqn).map fun entry => { fqn := entry.fqn, kind := entry.kind }

/-- What a well-known class inherits from; nothing for any other name. -/
def ancestors (fqn : String) : List String :=
  match find? fqn with
  | some entry => entry.ancestors
  | none => []

/-- The well-known classes of a package. -/
def inPackage (package : String) : List String :=
  (table.map (·.fqn)).filter fun fqn => Name.package? fqn == some package

end WellKnown
end GroovyNew
