/-
# Reading a JSON text

`Json.parse?` reads one value that fills the text, blanks around it aside.  The tokens are consumed
from left to right by a machine whose stack holds the arrays and objects still open, so a value may
nest to any depth.  What is nested too deeply to be read is there, as a value that can only be
ignored.
-/

import GroovyNew.Json.Token

namespace GroovyNew
namespace Json

/-- An array or object that is still open: what it holds so far, latest first. -/
inductive Open where
  | arr (items : List Json)
  | obj (members : Members) (key : Option String)

/-- What the reader waits for. -/
inductive Wait where
  /-- A value. -/
  | value
  /-- A value, or the end of an array that has just been opened. -/
  | valueOrClose
  /-- The name of a member. -/
  | key
  /-- The name of a member, or the end of an object that has just been opened. -/
  | keyOrClose
  /-- The colon after a name. -/
  | colon
  /-- A comma or the end of what is open. -/
  | separator
  /-- The end of the text. -/
  | finish

/-- The state of the reader. -/
structure Reader where
  stack : List Open
  wait : Wait
  result : Json

/-- The state once the value `v` is complete: it joins what is open around it. -/
def Reader.push (stack : List Open) (v : Json) : Reader :=
  match stack with
  | [] => ⟨[], .finish, v⟩
  | .arr items :: rest => ⟨.arr (v :: items) :: rest, .separator, .null⟩
  | .obj members key :: rest => ⟨.obj ((key, v) :: members) none :: rest, .separator, .null⟩

/-- The state once what is open on top of the stack is closed. -/
def Reader.close (stack : List Open) : Option Reader :=
  match stack with
  | [] => none
  | .arr items :: rest => some (.push rest (.arr items.reverse))
  | .obj members _ :: rest => some (.push rest (.obj members.reverse))

/-- The value of a string. -/
def Reader.valueOf : (text : Option String) → Json
  | some s => .text s
  | none => .unreadable

/-- The state after one token, if the token may stand here. -/
def Reader.step (r : Reader) (token : Token) : Option Reader :=
  match r.wait, token with
  | .value, .value v | .valueOrClose, .value v => some (.push r.stack v)
  | .value, .string s | .valueOrClose, .string s => some (.push r.stack (valueOf s))
  | .value, .openBracket | .valueOrClose, .openBracket =>
    some ⟨.arr [] :: r.stack, .valueOrClose, .null⟩
  | .value, .openBrace | .valueOrClose, .openBrace =>
    some ⟨.obj [] none :: r.stack, .keyOrClose, .null⟩
  | .valueOrClose, .closeBracket => Reader.close r.stack
  | .key, .string key | .keyOrClose, .string key =>
    match r.stack with
    | .obj members _ :: rest => some ⟨.obj members key :: rest, .colon, .null⟩
    | _ => none
  | .keyOrClose, .closeBrace => Reader.close r.stack
  | .colon, .colon => some { r with wait := .value }
  | .separator, .comma =>
    match r.stack with
    | .arr _ :: _ => some { r with wait := .value }
    | .obj _ _ :: _ => some { r with wait := .key }
    | [] => none
  | .separator, .closeBracket =>
    match r.stack with
    | .arr _ :: _ => Reader.close r.stack
    | _ => none
  | .separator, .closeBrace =>
    match r.stack with
    | .obj _ _ :: _ => Reader.close r.stack
    | _ => none
  | _, _ => none

/-- The value that a list of tokens writes. -/
def ofTokens? (tokens : List Token) : Option Json := do
  let final ← tokens.foldlM Reader.step ⟨[], .value, .null⟩
  match final.wait with
  | .finish => some final.result
  | _ => none

/-- How many levels of arrays and objects are read. -/
def maxLevels : Nat := 127

/-- The value that a text writes. -/
def parse? (source : String) : Option Json := do
  return limit maxLevels (← ofTokens? (← Token.scan source.toList))

end Json
end GroovyNew
