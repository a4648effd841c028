/-
# Expressions and `new` expressions

The part of Groovy syntax that constructor resolution reads.  An expression is typed as far as the
model goes; source text beyond it is kept as it is (`Expr.verbatim`).

A `new` expression is the list of its children in source order, blanks and unparseable fragments
included, as an editor leaves them:

| child | in `outer.new <A> Point<B>(x: 1, 2) { }` or `new int[3]` |
| --- | --- |
| `keyword` | `new` |
| `whitespace`, `error` | trivia |
| `typeArguments` | `<A>` |
| `reference` | `Point<B>` |
| `builtinType` | `int` |
| `arguments` | `(x: 1, 2)` |
| `anonymous` | `Point<B>(x: 1, 2) { }`, one declaration that owns reference and arguments |
| `arrayDeclaration` | `[3]`, by its number of dimensions |
| `arrayInitializer` | `{1, 2}` |
-/

import GroovyNew.CodeReference

namespace GroovyNew

/-- The number that identifies a call site. -/
abbrev CallSiteId := Nat

/-- The text of a call-site id. -/
def CallSiteId.toText (id : CallSiteId) : String := "#" ++ toString id

/-- A literal.  Numbers are kept as text, so that their suffix is visible. -/
inductive Literal where
  | integer (text : String)
  | decimal (text : String)
  | bool (b : Bool)
  | char (c : Char)
  | str (s : String)
  | null
  deriving DecidableEq, Inhabited, Repr

mutual

/-- An expression. -/
inductive Expr where
  | literal (l : Literal)
  /-- A bare name: a local variable, a parameter or a property. -/
  | ident (name : String)
  | this
  | new (e : NewExpr)
  /-- A map literal. -/
  | map (entries : List NamedArgument)
  /-- A list literal. -/
  | list (items : List Expr)
  /-- A cast, `(T) e` or `e as T`. -/
  | cast (target : CodeReference) (e : Expr)
  /-- Source text that is not analysed. -/
  | verbatim (text : String)

/-- `label: value`, in an argument list or a map literal. -/
structure NamedArgument where
  label : String
  value : Expr

/-- The arguments of a call.  Named and positional arguments may interleave in the source; each
group keeps its own order. -/
structure ArgumentList where
  named : List NamedArgument := []
  positional : List Expr := []

/-- An anonymous class declaration after `new`. -/
structure AnonymousClass where
  base : CodeReference
  arguments : Option ArgumentList := none

/-- A child of a `new` expression. -/
inductive NewChild where
  | keyword
  | whitespace (text : String)
  | error (text : String)
  | typeArguments (args : List CodeReference)
  | reference (r : CodeReference)
  | builtinType (name : String)
  | arguments (args : ArgumentList)
  | anonymous (c : AnonymousClass)
  | arrayDeclaration (dimensions : Nat)
  | arrayInitializer (items : List Expr)

/-- A `new` expression; its qualifier is the explicit enclosing instance of `outer.new Inner()`. -/
structure NewExpr where
  id : CallSiteId
  qualifier : Option Expr := none
  children : List NewChild

end

instance : Inhabited Expr := ⟨.this⟩
instance : Inhabited NewExpr := ⟨⟨0, none, []⟩⟩

namespace ArgumentList

/-- There are no arguments. -/
def isEmpty (a : ArgumentList) : Bool := a.named.isEmpty && a.positional.isEmpty

/-- The list with one more named argument. -/
def pushNamed (a : ArgumentList) (argument : NamedArgument) : ArgumentList :=
  { a with named := a.named ++ [argument] }

end ArgumentList

namespace NewChild

/-- Whitespace or an unparseable fragment. -/
def isTrivia : NewChild → Bool
  | .whitespace _ | .error _ => true
  | _ => false

/-- The anonymous class declared by the child. -/
def anonymous? : NewChild → Option AnonymousClass
  | .anonymous c => some c
  | _ => none

/-- The class reference that the child is. -/
def reference? : NewChild → Option CodeReference
  | .reference r => some r
  | _ => none

/-- The argument list that the child is. -/
def arguments? : NewChild → Option ArgumentList
  | .arguments a => some a
  | _ => none

/-- The dimensions that the child declares. -/
def arrayDeclaration? : NewChild → Option Nat
  | .arrayDeclaration n => some n
  | _ => none

/-- The items of the array initializer that the child is. -/
def arrayInitializer? : NewChild → Option (List Expr)
  | .arrayInitializer items => some items
  | _ => none

/-- The constructor type arguments that the child is. -/
def typeArguments? : NewChild → Option (List CodeReference)
  | .typeArguments args => some args
  | _ => none

/-- The builtin type that the child names. -/
def builtinType? : NewChild → Option String
  | .builtinType name => some name
  | _ => none

end NewChild

namespace NewExpr

/-- The `new` keyword alone. -/
def bare (id : CallSiteId) : NewExpr := { id, children := [.keyword] }

/-- The expression with one more child at the end. -/
def withChild (e : NewExpr) (child : NewChild) : NewExpr :=
  { e with children := e.children ++ [child] }

/-- `new R`, without arguments. -/
def ofReference (id : CallSiteId) (r : CodeReference) : NewExpr :=
  ((bare id).withChild (.whitespace " ")).withChild (.reference r)

/-- The anonymous class that the expression declares. -/
def anonymous? (e : NewExpr) : Option AnonymousClass := e.children.findSome? NewChild.anonymous?

/-- The constructed class as written; the base of the anonymous class if there is one. -/
def reference? (e : NewExpr) : Option CodeReference :=
  match e.anonymous? with
  | some c => some c.base
  | none => e.children.findSome? NewChild.reference?

/-- The arguments of the call; those of the anonymous class if there is one. -/
def arguments? (e : NewExpr) : Option ArgumentList :=
  match e.anonymous? with
  | some c => c.arguments
  | none => e.children.findSome? NewChild.arguments?

/-- The named arguments of the call. -/
def namedArguments (e : NewExpr) : List NamedArgument :=
  match e.arguments? with
  | some a => a.named
  | none => []

/-- The declared dimensions of an array creation. -/
def arrayDeclaration? (e : NewExpr) : Option Nat :=
  e.children.findSome? NewChild.arrayDeclaration?

/-- The number of declared dimensions; zero for a constructor call. -/
def arrayCount (e : NewExpr) : Nat := e.arrayDeclaration?.getD 0

/-- The items of the array initializer. -/
def arrayInitializer? (e : NewExpr) : Option (List Expr) :=
  e.children.findSome? NewChild.arrayInitializer?

/-- The explicit constructor type arguments. -/
def typeArguments? (e : NewExpr) : Option (List CodeReference) :=
  e.children.findSome? NewChild.typeArguments?

/-- The builtin type of an array creation. -/
def builtinType? (e : NewExpr) : Option String := e.children.findSome? NewChild.builtinType?

/-- How the expression is shown to a user. -/
def description : String := "NEW expression"

end NewExpr
end GroovyNew
