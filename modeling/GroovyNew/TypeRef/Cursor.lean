/-
# Reading a type text without lexemes

`parse` reads the lexemes of a text.  The same type can be read off the text itself, by a cursor that moves
over it: blanks are skipped where a token is looked for, a word ends where its characters end, and blanks
that were skipped in looking for a dot in vain are gone back over.

The cursor is a number of bytes, and what stands there is found by cutting the text at that byte.  A cut
inside a character, or beyond the text, is no cut, and the walk stops (`Stop.noCut`).  `Cursor` remembers
each position that it took, and for each type that is read inside another one where both of them start.

The walk takes one unit of fuel for each turn of a loop and for each type inside another one.
-/

import GroovyNew.TypeRef.Parser

namespace GroovyNew
namespace TypeText

/-- The text before a byte and the text from there on. -/
def cut? : (text : List Char) → (byte : Nat) → Option (List Char × List Char)
  | cs, 0 => some ([], cs)
  | [], _ + 1 => none
  | c :: cs, byte + 1 =>
    if c.utf8Size ≤ byte + 1 then
      (cut? cs (byte + 1 - c.utf8Size)).map fun (before, after) => (c :: before, after)
    else none

/-- A position in a text, in bytes. -/
structure Cursor where
  position : Nat := 0
  /-- The positions taken before, the latest first. -/
  past : List Nat := []
  /-- Where a type starts and where a type inside it does, the latest first. -/
  nested : List (Nat × Nat) := []
  deriving DecidableEq, Inhabited, Repr

namespace Cursor

/-- All positions taken, the latest first. -/
def positions (c : Cursor) : List Nat := c.position :: c.past

/-- Takes another position. -/
def moveTo (c : Cursor) (position : Nat) : Cursor := { c with position, past := c.positions }

/-- Remembers that a type starts here inside a type that starts at `start`. -/
def nest (c : Cursor) (start : Nat) : Cursor := { c with nested := (start, c.position) :: c.nested }

end Cursor

/-- Why a walk stops. -/
inductive Stop where
  /-- The text is no type. -/
  | fault (f : Fault)
  /-- The text cannot be cut at a position. -/
  | noCut
  /-- The fuel is used up. -/
  | noFuel
  deriving DecidableEq, Inhabited, Repr

/-- What moves a cursor over a text and yields a value. -/
abbrev Walk (α : Type) : Type := ReaderT (List Char) (ExceptT Stop (StateM Cursor)) α

namespace Walk

/-- Walks over a text from a cursor: the value, or why the walk stops, and the cursor after it. -/
def runFrom {α : Type} (w : Walk α) (text : List Char) (c : Cursor) : Except Stop α × Cursor :=
  (w.run text).run.run c

/-- The position of the cursor. -/
def position : Walk Nat := do return (← get).position

/-- Moves the cursor. -/
def moveTo (position : Nat) : Walk Unit := modify (·.moveTo position)

/-- Moves the cursor forward by a number of bytes. -/
def advance (bytes : Nat) : Walk Unit := do moveTo ((← position) + bytes)

/-- Stops at a problem at the cursor. -/
def fail {α : Type} (problem : Problem) : Walk α := do throw (.fault ⟨problem, ← position⟩)

/-- Cuts a text. -/
def cut (text : List Char) (byte : Nat) : Walk (List Char × List Char) :=
  match cut? text byte with
  | some parts => pure parts
  | none => throw .noCut

/-- The text from the cursor on. -/
def rest : Walk (List Char) := do return (← cut (← read) (← position)).2

/-- Moves past blanks. -/
def skipBlanks : Walk Unit := do
  let trimmed := (← rest).dropWhile Text.isBlank
  moveTo (utf8Length (← read) - utf8Length trimmed)

/-- Moves past blanks, and past the token if it stands there. -/
def eat (token : String) : Walk Bool := do
  skipBlanks
  if token.toList.isPrefixOf (← rest) then
    advance (utf8Length token.toList)
    return true
  else return false

/-- Moves past blanks, and past the keyword if it stands there as a whole word. -/
def eatKeyword (keyword : String) : Walk Bool := do
  skipBlanks
  let cs ← rest
  if keyword.toList.isPrefixOf cs then
    let after := (← cut cs (utf8Length keyword.toList)).2
    if after.head?.all fun c => !Text.isWordChar c then
      advance (utf8Length keyword.toList)
      return true
    else return false
  else return false

/-- A word of a name. -/
def identifier : Walk String := do
  skipBlanks
  let length := utf8Length ((← rest).takeWhile Text.isWordChar)
  if length = 0 then fail .expectedIdentifier
  else
    let word := String.ofList (← cut (← rest) length).1
    if startsWithDigit word then fail .leadingDigit
    else
      advance length
      return word

/-- A name.  Where no dot follows, the cursor goes back to the end of the last word. -/
def name : (fuel : Nat) → Walk String
  | 0 => throw .noFuel
  | fuel + 1 => do
    let word ← identifier
    let checkpoint ← position
    if ← eat "." then return word ++ "." ++ (← name fuel)
    else
      moveTo checkpoint
      return word

/-- The brackets after the type `t`. -/
def brackets : (fuel : Nat) → (t : TypeRef) → Walk TypeRef
  | 0, _ => throw .noFuel
  | fuel + 1, t => do
    if ← eat "[" then
      if ← eat "]" then brackets fuel t.arrayOf else fail .expectedBracket
    else return t

/-- Walks a type inside the type that starts at `start`. -/
def inside {α : Type} (start : Nat) (w : Walk α) : Walk α := do
  modify (·.nest start)
  w

mutual

/-- A type. -/
def type : (fuel : Nat) → Walk TypeRef
  | 0 => throw .noFuel
  | fuel + 1 => do
    let start ← position
    if ← eat "?" then
      if ← eatKeyword "extends" then return .wildcard (some (← inside start (type fuel))) true
      else if ← eatKeyword "super" then return .wildcard (some (← inside start (type fuel))) false
      else return .wildcard none true
    else
      let n ← name fuel
      if ← eat "<" then
        let args ← arguments fuel start
        if ← eat ">" then brackets fuel (.generic (.named n) args) else fail .expectedGreater
      else brackets fuel (.named n)

/-- The types separated by commas inside the type that starts at `start`. -/
def arguments : (fuel : Nat) → (start : Nat) → Walk (List TypeRef)
  | 0, _ => throw .noFuel
  | fuel + 1, start => do
    let t ← inside start (type fuel)
    if ← eat "," then return t :: (← arguments fuel start) else return [t]

end

/-- The type that fills the text. -/
def whole (fuel : Nat) : Walk TypeRef := do
  let t ← type fuel
  skipBlanks
  if utf8Length (← read) ≤ (← position) then return t else fail .trailingInput

end Walk

/-- Reads the type that fills a text: the type, or why the walk stops, and the cursor after it. -/
def walk (text : String) : Except Stop TypeRef × Cursor :=
  (Walk.whole (2 * text.utf8ByteSize + 2)).runFrom text.toList {}

end TypeText
end GroovyNew
