/-
# Subtyping and method-invocation conversion

`TypeSystem.isSubtype ts s t` says that a value of type `s` is a value of type `t`.  The rules, the
first that fits deciding:

1. a type is a subtype of itself;
2. an unknown type fits on both sides;
3. all but primitives are subtypes of `java.lang.Object`;
4. primitives widen as in the table `widenings`;
5. a wildcard above is replaced by its bound, an unbounded one fits;
6. arrays of equal dimensions compare by their elements, primitive elements by equality; an array of
   more dimensions is a subtype of an array of fewer over one of the three supertypes of arrays; an
   array is a subtype of these three;
7. all else compares by the classes after erasure.

`TypeSystem.isAssignable` adds boxing and unboxing.
-/

import GroovyNew.TypeSystem
import GroovyNew.WellKnown

namespace GroovyNew
namespace Subtyping

/-- The primitive types with those to which they widen. -/
def widenings : List (String × List String) :=
  [("byte", ["short", "int", "long", "float", "double"]),
    ("short", ["int", "long", "float", "double"]),
    ("char", ["int", "long", "float", "double"]),
    ("int", ["long", "float", "double"]),
    ("long", ["float", "double"]),
    ("float", ["double"])]

/-- One primitive type widens to another. -/
def widens (sub sup : String) : Bool := ((widenings.lookup sub).getD []).contains sup

/-- The classes that every array inherits from. -/
def arraySupertypes : List String :=
  [TypeRef.objectName, "java.lang.Cloneable", "java.io.Serializable"]

/-- The type is one of the classes that every array inherits from. -/
def isArraySupertype : TypeRef → Bool
  | .id name => arraySupertypes.contains name
  | _ => false

end Subtyping

namespace TypeSystem

/-- The class `sub` is `sup` or inherits from it.  Each class on the way up is also looked up among
the well-known classes, which need no declaration. -/
def isInheritor (ts : TypeSystem) (sub sup : String) : Bool :=
  sub == sup || sup == TypeRef.objectName ||
    (sub :: ts.ancestors sub).any fun c => c == sup || (WellKnown.ancestors c).contains sup

/-- Subtyping after erasure. -/
def isErasedSubtype (ts : TypeSystem) (sub sup : TypeRef) : Bool :=
  match sub.erasure?, sup.erasure? with
  | some c, some d => ts.isInheritor c d
  | _, _ => false

/-- The subtype relation. -/
def isSubtype (ts : TypeSystem) (sub sup : TypeRef) : Bool :=
  if sub = sup then true
  else if sub.isUnknown || sup.isUnknown then true
  else if sup = .id TypeRef.objectName then !sub.isRaw
  else match sub, sup with
    | .raw p, .raw q => Subtyping.widens p q
    | _, .wildcard none _ => true
    | sub, .wildcard (some bound) true => ts.isSubtype sub bound
    | sub, .wildcard (some bound) false => ts.isSubtype bound sub
    | .array e m, .array f n =>
      if m = n then
        if e.isPrimitive || f.isPrimitive then e == f else ts.isSubtype e f
      else m > n && Subtyping.isArraySupertype f
    | .array _ _, .id name => Subtyping.isArraySupertype (.id name)
    | sub, sup => ts.isErasedSubtype sub sup
termination_by sizeOf sub + sizeOf sup

/-- Method-invocation conversion: subtyping, after boxing or unboxing if need be. -/
def isAssignable (ts : TypeSystem) (arg param : TypeRef) : Bool :=
  ts.isSubtype arg param ||
    match arg with
    | .raw p => match WellKnown.boxed? p with
      | some box => ts.isSubtype (.id box) param
      | none => false
    | .id c => match WellKnown.unboxed? c with
      | some p => ts.isSubtype (.raw p) param
      | none => false
    | _ => false

end TypeSystem
end GroovyNew
