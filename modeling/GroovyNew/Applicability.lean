/-
# Applicable constructors

A call applies to a constructor in one of two ways.  By *fixed arity*, the arguments match the
parameters one by one.  By *variable arity*, the last parameter is `T... x`: the arguments before it
match one by one, and the rest are none, or one array `T[]`, or any number of `T`s.  The second way
counts only where no constructor applies in the first.
-/

import GroovyNew.Subtyping

namespace GroovyNew
namespace Applicability

/-- The arguments match the parameters one by one. -/
def matchAll (ts : TypeSystem) : (params : List ParameterInfo) → (args : List TypeRef) → Bool
  | [], [] => true
  | p :: ps, a :: as => ts.isAssignable a p.type && matchAll ts ps as
  | _, _ => false

/-- The arguments left for a last parameter of array type `array` and element type `element`: none,
one array, or elements. -/
def matchTail (ts : TypeSystem) (array element : TypeRef) (args : List TypeRef) : Bool :=
  args.isEmpty ||
    (match args with
      | [a] => ts.isAssignable a array
      | _ => false) ||
    args.all fun a => ts.isAssignable a element

/-- The arguments match the parameters, the last of which takes a variable number. -/
def matchVariable (ts : TypeSystem) : (params : List ParameterInfo) → (args : List TypeRef) → Bool
  | [], _ => false
  | [last], args =>
    last.isVarargs &&
      match last.type.element? with
      | some element => matchTail ts last.type element args
      | none => false
  | _ :: _ :: _, [] => false
  | p :: ps, a :: as => ts.isAssignable a p.type && matchVariable ts ps as

/-- The candidates to which the arguments apply, in their order. -/
def select {α : Type} (ts : TypeSystem) (params : α → List ParameterInfo) (candidates : List α)
    (args : List TypeRef) : List α :=
  let fixed := candidates.filter fun c => matchAll ts (params c) args
  if fixed.isEmpty then candidates.filter fun c => matchVariable ts (params c) args else fixed

end Applicability
end GroovyNew
