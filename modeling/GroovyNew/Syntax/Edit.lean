/-
# Adding a named argument

`NewExpr.addNamed` appends a named argument to the arguments that `NewExpr.arguments?` reads.  The
owner of the arguments is the first anonymous declaration, else the first argument list.  A call
without either, `new Foo`, gets an argument list right after its last child that is not trivia.
-/

import GroovyNew.Syntax.Basic

namespace GroovyNew

/-- Changes the first item that satisfies `p`. -/
def modifyFirst {α : Type} (p : α → Bool) (f : α → α) : List α → List α
  | [] => []
  | a :: as => if p a then f a :: as else a :: modifyFirst p f as

/-- Inserts an item before the longest final run of items that satisfy `p`. -/
def insertBeforeTrailing {α : Type} (p : α → Bool) (item : α) (items : List α) : List α :=
  let trailing := (items.reverse.takeWhile p).length
  items.take (items.length - trailing) ++ item :: items.drop (items.length - trailing)

namespace NewChild

/-- The child is an anonymous declaration. -/
def isAnonymous (child : NewChild) : Bool := child.anonymous?.isSome

/-- The child is an argument list. -/
def isArguments (child : NewChild) : Bool := child.arguments?.isSome

/-- The child with one more named argument, if it owns arguments. -/
def addNamed (argument : NamedArgument) : NewChild → NewChild
  | .anonymous c =>
    .anonymous { c with arguments := some ((c.arguments.getD {}).pushNamed argument) }
  | .arguments a => .arguments (a.pushNamed argument)
  | child => child

end NewChild

/-- The expression with one more named argument. -/
def NewExpr.addNamed (e : NewExpr) (argument : NamedArgument) : NewExpr :=
  if e.children.any NewChild.isAnonymous then
    { e with children := modifyFirst NewChild.isAnonymous (.addNamed argument) e.children }
  else if e.children.any NewChild.isArguments then
    { e with children := modifyFirst NewChild.isArguments (.addNamed argument) e.children }
  else
    { e with children :=
        insertBeforeTrailing NewChild.isTrivia (.arguments { named := [argument] }) e.children }

/-- The call site stays the same. -/
@[simp] theorem NewExpr.id_addNamed (e : NewExpr) (argument : NamedArgument) :
    (e.addNamed argument).id = e.id := by
  unfold addNamed
  split
  · rfl
  · split <;> rfl

end GroovyNew
