/-
# Tokens of a JSON text

`Json.Token.scan` cuts a text into brackets, separators, literal words, numbers and strings.  It
answers `none` when some part of the text is no token: an unknown word, a number with a superfluous
zero, a control character inside a string, an unknown escape.

A string token holds its text with the escapes resolved, or `none` when an escape names half of a
surrogate pair: the string is well formed, but it stands for no sequence of characters.
-/

import GroovyNew.Json.Number

namespace GroovyNew
namespace Json

/-- A token of a JSON text. -/
inductive Token where
  | openBrace
  | closeBrace
  | openBracket
  | closeBracket
  | colon
  | comma
  | string (text : Option String)
  /-- A number or a literal word. -/
  | value (v : Json)
  deriving Inhabited, Repr

namespace Token

/-- The value of a hexadecimal digit. -/
def hexDigit? (c : Char) : Option Nat :=
  if c.isDigit then some (c.toNat - '0'.toNat)
  else if 'a' ≤ c && c ≤ 'f' then some (c.toNat - 'a'.toNat + 10)
  else if 'A' ≤ c && c ≤ 'F' then some (c.toNat - 'A'.toNat + 10)
  else none

/-- The unit written by four hexadecimal digits. -/
def unit? (a b c d : Char) : Option Nat := do
  let a ← hexDigit? a
  let b ← hexDigit? b
  let c ← hexDigit? c
  let d ← hexDigit? d
  return ((a * 16 + b) * 16 + c) * 16 + d

/-- The character that a one-letter escape stands for. -/
def shortEscape? : Char → Option Char
  | '"' => some '"'
  | '\\' => some '\\'
  | '/' => some '/'
  | 'b' => some '\x08'
  | 'f' => some '\x0c'
  | 'n' => some '\n'
  | 'r' => some '\r'
  | 't' => some '\t'
  | _ => none

/-- A piece of a string: a character, or one unit of a `\u` escape. -/
inductive Piece where
  | char (c : Char)
  | unit (n : Nat)

/-- The pieces of a string up to its closing quote, and the text after it. -/
def pieces : List Char → Option (List Piece × List Char)
  | [] => none
  | '"' :: rest => some ([], rest)
  | '\\' :: 'u' :: a :: b :: c :: d :: rest => do
    let n ← unit? a b c d
    let (ps, rest) ← pieces rest
    return (.unit n :: ps, rest)
  | '\\' :: c :: rest => do
    let c ← shortEscape? c
    let (ps, rest) ← pieces rest
    return (.char c :: ps, rest)
  | c :: rest =>
    if c == '\\' || c.toNat < 0x20 then none
    else do
      let (ps, rest) ← pieces rest
      return (.char c :: ps, rest)

/-- The text of the pieces.  Two units that form a surrogate pair are one character; half a pair has
no text. -/
def textOf : List Piece → Option (List Char)
  | [] => some []
  | .char c :: ps => (textOf ps).map (c :: ·)
  | .unit hi :: ps =>
    if hi < 0xD800 || 0xE000 ≤ hi then (textOf ps).map (Char.ofNat hi :: ·)
    else if 0xDC00 ≤ hi then none
    else match ps with
      | .unit lo :: ps =>
        if 0xDC00 ≤ lo && lo < 0xE000 then
          (textOf ps).map (Char.ofNat (0x10000 + (hi - 0xD800) * 0x400 + (lo - 0xDC00)) :: ·)
        else none
      | _ => none

/-- The token that starts with the character `c`, and the text after it. -/
def next? (c : Char) (cs : List Char) : Option (Token × List Char) :=
  match c with
  | '{' => some (.openBrace, cs)
  | '}' => some (.closeBrace, cs)
  | '[' => some (.openBracket, cs)
  | ']' => some (.closeBracket, cs)
  | ':' => some (.colon, cs)
  | ',' => some (.comma, cs)
  | '"' => (pieces cs).map fun (ps, rest) => (.string ((textOf ps).map String.ofList), rest)
  | '-' => (Number.read? true cs).map fun (v, rest) => (.value v, rest)
  | 't' => match cs with
    | 'r' :: 'u' :: 'e' :: rest => some (.value (.bool true), rest)
    | _ => none
  | 'f' => match cs with
    | 'a' :: 'l' :: 's' :: 'e' :: rest => some (.value (.bool false), rest)
    | _ => none
  | 'n' => match cs with
    | 'u' :: 'l' :: 'l' :: rest => some (.value .null, rest)
    | _ => none
  | _ =>
    if c.isDigit then (Number.read? false (c :: cs)).map fun (v, rest) => (.value v, rest)
    else none

/-- The blank characters between the tokens of a JSON text. -/
def isGap (c : Char) : Bool := c == ' ' || c == '\n' || c == '\t' || c == '\r'

/-- The tokens of a text.  Each step consumes at least one character, so `fuel` of the length of the
text is enough. -/
def scanFrom : Nat → List Char → Option (List Token)
  | 0, cs => if cs.isEmpty then some [] else none
  | _ + 1, [] => some []
  | fuel + 1, c :: cs =>
    if isGap c then scanFrom fuel cs
    else do
      let (token, rest) ← next? c cs
      let tokens ← scanFrom fuel rest
      return token :: tokens

/-- The tokens of a text. -/
def scan (cs : List Char) : Option (List Token) := scanFrom cs.length cs

end Token
end Json
end GroovyNew
