/-
# Types of expressions

`TypeSystem.infer?` gives the type of an expression in a context, as far as the expression shows it.
Where it shows nothing the type is `TypeRef.unknown` (`TypeSystem.inferOrUnknown`), which excludes
no constructor later.
-/

import GroovyNew.Normalize
import GroovyNew.Syntax.Basic
import GroovyNew.Syntax.Number

namespace GroovyNew

/-- The surroundings of an expression. -/
structure Context extends Scope where
  /-- The expression stands in a static method or initializer. -/
  isStatic : Bool := false
  /-- The types of the local variables in sight. -/
  locals : Bindings := {}
  deriving Inhabited, Repr

/-- The type of a literal.  `null` fits any type. -/
def Literal.type : Literal → TypeRef
  | .integer text => Number.integerType text
  | .decimal text => Number.decimalType text
  | .bool _ => .raw "boolean"
  | .char _ => .raw "char"
  | .str _ => .id TypeRef.stringName
  | .null => .unknown

namespace NewExpr

/-- The type of what is constructed: the class, or the element of the array. -/
def elementType? (ts : TypeSystem) (scope : Scope) (e : NewExpr) : Option TypeRef :=
  match e.reference?, e.builtinType? with
  | some r, _ => some (r.type ts scope)
  | none, some name => some (.raw name)
  | none, none => none

/-- The type of a `new` expression. -/
def type? (ts : TypeSystem) (scope : Scope) (e : NewExpr) : Option TypeRef :=
  (e.elementType? ts scope).map fun t => if e.arrayCount = 0 then t else .array t e.arrayCount

end NewExpr

namespace TypeSystem

mutual

/-- The type of an expression, if the expression shows one. -/
def infer? (ts : TypeSystem) (ctx : Context) : Expr → Option TypeRef
  | .literal l => some l.type
  | .ident name => ctx.locals.get? name
  | .this => if ctx.isStatic then none else ctx.enclosingClass.map .id
  | .new e => e.type? ts ctx.toScope
  | .map entries => some (.map (inferNamed ts ctx entries))
  | .list _ => some (.id "java.util.ArrayList")
  | .cast target _ => some (target.type ts ctx.toScope)
  | .verbatim _ => none

/-- The types of labelled values. -/
def inferNamed (ts : TypeSystem) (ctx : Context) : List NamedArgument → List (String × TypeRef)
  | [] => []
  | ⟨label, value⟩ :: as => (label, (infer? ts ctx value).getD .unknown) :: inferNamed ts ctx as

end

/-- The type of an expression, unknown if the expression shows none. -/
def inferOrUnknown (ts : TypeSystem) (ctx : Context) (e : Expr) : TypeRef :=
  (ts.infer? ctx e).getD .unknown

/-- The type of the map that named arguments form. -/
def namedArgumentsType (ts : TypeSystem) (ctx : Context) (named : List NamedArgument) : TypeRef :=
  .map (ts.inferNamed ctx named)

end TypeSystem
end GroovyNew
