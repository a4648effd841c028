/-
# Reading a type text

    type ::= '?' [('extends' | 'super') type]
           | name ['<' type (',' type)* '>'] ('[' ']')*
    name ::= word ('.' word)*

No word of a name starts with an ASCII digit.  A name is not resolved: the primitives and `void`
become `TypeRef.raw`, any other name `TypeRef.id`.  A bare `?` is the wildcard without bound, marked
as an upper one, and the brackets of an array are counted in one `TypeRef.array`.

The parser works on lexemes from left to right and never steps back: each function returns what it
has read and the lexemes after it.  An error is reported at the first lexeme that cannot continue,
or at the end of the text.  `type` and `arguments` call each other and consume at least one lexeme
in every two calls, so the fuel that `parse` gives them does not run out.
-/

import GroovyNew.TypeRef.Basic
import GroovyNew.TypeRef.Token

namespace GroovyNew
namespace TypeText

/-- What is wrong with a type text. -/
inductive Problem where
  /-- A name is missing. -/
  | expectedIdentifier
  /-- A word of a name starts with an ASCII digit. -/
  | leadingDigit
  /-- Type arguments are not closed. -/
  | expectedGreater
  /-- A bracket is not closed. -/
  | expectedBracket
  /-- Something follows the type. -/
  | trailingInput
  deriving DecidableEq, Inhabited, Repr

/-- A problem and the byte offset at which it is found. -/
structure Fault where
  problem : Problem
  offset : Nat
  deriving DecidableEq, Inhabited, Repr

/-- The offset of the next lexeme; `stop`, the length of the text, when there is none. -/
def position (stop : Nat) : List Lexeme → Nat
  | [] => stop
  | l :: _ => l.offset

/-- A word starts with an ASCII digit. -/
def startsWithDigit (word : String) : Bool :=
  match word.toList with
  | c :: _ => c.isDigit
  | [] => false

/-- What a step of the parser returns: its value and the lexemes after it. -/
abbrev Parsed (α : Type) : Type := Except Fault (α × List Lexeme)

/-- A name: words joined by dots. -/
def name (stop : Nat) : List Lexeme → Parsed String
  | ⟨offset, .word w⟩ :: ⟨_, .dot⟩ :: rest =>
    if startsWithDigit w then .error ⟨.leadingDigit, offset⟩
    else match name stop rest with
      | .error e => .error e
      | .ok (n, rest) => .ok (w ++ "." ++ n, rest)
  | ⟨offset, .word w⟩ :: rest =>
    if startsWithDigit w then .error ⟨.leadingDigit, offset⟩ else .ok (w, rest)
  | ls => .error ⟨.expectedIdentifier, position stop ls⟩

/-- The brackets after the type `t`, each pair a dimension more. -/
def brackets (stop : Nat) (t : TypeRef) : List Lexeme → Parsed TypeRef
  | ⟨_, .openBracket⟩ :: ⟨_, .closeBracket⟩ :: rest => brackets stop t.arrayOf rest
  | ⟨_, .openBracket⟩ :: rest => .error ⟨.expectedBracket, position stop rest⟩
  | ls => .ok (t, ls)

mutual

/-- A type. -/
def type (stop : Nat) : (fuel : Nat) → List Lexeme → Parsed TypeRef
  | 0, ls => .error ⟨.expectedIdentifier, position stop ls⟩
  | fuel + 1, ⟨_, .question⟩ :: ⟨_, .word "extends"⟩ :: rest =>
    match type stop fuel rest with
    | .error e => .error e
    | .ok (t, rest) => .ok (.wildcard (some t) true, rest)
  | fuel + 1, ⟨_, .question⟩ :: ⟨_, .word "super"⟩ :: rest =>
    match type stop fuel rest with
    | .error e => .error e
    | .ok (t, rest) => .ok (.wildcard (some t) false, rest)
  | _ + 1, ⟨_, .question⟩ :: rest => .ok (.wildcard none true, rest)
  | fuel + 1, ls =>
    match name stop ls with
    | .error e => .error e
    | .ok (n, ⟨_, .less⟩ :: rest) =>
      match arguments stop fuel rest with
      | .error e => .error e
      | .ok (args, ⟨_, .greater⟩ :: rest) => brackets stop (.generic (.named n) args) rest
      | .ok (_, rest) => .error ⟨.expectedGreater, position stop rest⟩
    | .ok (n, rest) => brackets stop (.named n) rest

/-- Types separated by commas, at least one. -/
def arguments (stop : Nat) : (fuel : Nat) → List Lexeme → Parsed (List TypeRef)
  | 0, ls => .error ⟨.expectedIdentifier, position stop ls⟩
  | fuel + 1, ls =>
    match type stop fuel ls with
    | .error e => .error e
    | .ok (t, ⟨_, .comma⟩ :: rest) =>
      match arguments stop fuel rest with
      | .error e => .error e
      | .ok (ts, rest) => .ok (t :: ts, rest)
    | .ok (t, rest) => .ok ([t], rest)

end

/-- The type that fills a text, or what is wrong with the text. -/
def parse (text : String) : Except Fault TypeRef :=
  match type (utf8Length text.toList) (2 * (lexemes text).length + 2) (lexemes text) with
  | .error e => .error e
  | .ok (t, []) => .ok t
  | .ok (_, l :: _) => .error ⟨.trailingInput, l.offset⟩

/-- The description of a problem. -/
def Problem.message : Problem → String
  | .expectedIdentifier => "expected identifier"
  | .leadingDigit => "identifier cannot start with a digit"
  | .expectedGreater => "expected `>`"
  | .expectedBracket => "expected `]`"
  | .trailingInput => "unexpected trailing input"

end TypeText
end GroovyNew
