/-
# Tokens of a type text

A type text such as `java.util.Map<String, ? extends Object[]>` is cut into words and seven
punctuation marks.  A word is a longest run of identifier characters.  Blanks separate words and
carry no meaning.  A character that is none of these is a token of its own (`stray`), which no type
contains.

A lexeme is a token with its place: the number of bytes of UTF-8 before it.
-/

import GroovyNew.Text.Word

namespace GroovyNew
namespace TypeText

/-- A token of a type text. -/
inductive Token where
  | question
  | less
  | greater
  | comma
  | openBracket
  | closeBracket
  | dot
  /-- A longest run of identifier characters. -/
  | word (text : String)
  /-- A character that belongs to no type. -/
  | stray (c : Char)
  deriving DecidableEq, Inhabited, Repr

/-- A token and the byte offset at which it starts. -/
structure Lexeme where
  offset : Nat
  token : Token
  deriving DecidableEq, Inhabited, Repr

/-- The token that a character outside words forms. -/
def markOf : Char → Token
  | '?' => .question
  | '<' => .less
  | '>' => .greater
  | ',' => .comma
  | '[' => .openBracket
  | ']' => .closeBracket
  | '.' => .dot
  | c => .stray c

/-- The bytes of UTF-8 that characters take. -/
def utf8Length : List Char → Nat
  | [] => 0
  | c :: cs => c.utf8Size + utf8Length cs

@[simp] theorem utf8Length_nil : utf8Length [] = 0 := rfl

@[simp] theorem utf8Length_cons (c : Char) (cs : List Char) :
    utf8Length (c :: cs) = c.utf8Size + utf8Length cs := rfl

@[simp] theorem utf8Length_append (cs ds : List Char) :
    utf8Length (cs ++ ds) = utf8Length cs + utf8Length ds := by
  induction cs with
  | nil => simp
  | cons c cs ih => simp [ih, Nat.add_assoc]

/-- The length of a text in UTF-8 is the length of its characters. -/
theorem utf8Length_toList (s : String) : utf8Length s.toList = s.utf8ByteSize := by
  have h : ∀ cs : List Char, utf8Length cs = (String.ofList cs).utf8ByteSize := by
    intro cs
    induction cs with
    | nil => simp
    | cons c cs ih =>
      have e : String.ofList (c :: cs) = String.singleton c ++ String.ofList cs := by
        rw [String.singleton_eq_ofList, ← String.ofList_append]; rfl
      rw [utf8Length_cons, ih, e, String.utf8ByteSize_append, String.utf8ByteSize_singleton]
  rw [h, String.ofList_toList]

/-- The lexemes of the characters `cs`, which stand at the byte offset `offset`. -/
def scan (offset : Nat) : List Char → List Lexeme
  | [] => []
  | c :: cs =>
    if Text.isBlank c then scan (offset + c.utf8Size) cs
    else if Text.isWordChar c then
      let word := c :: cs.takeWhile Text.isWordChar
      ⟨offset, .word (String.ofList word)⟩ ::
        scan (offset + utf8Length word) (cs.dropWhile Text.isWordChar)
    else ⟨offset, markOf c⟩ :: scan (offset + c.utf8Size) cs
termination_by cs => cs.length
decreasing_by
  · simp
  · have hsuffix : cs.dropWhile Text.isWordChar <:+ cs := List.dropWhile_suffix _
    have hlength := hsuffix.length_le
    simp only [List.length_cons]; omega
  · simp

/-- The lexemes of a text. -/
def lexemes (text : String) : List Lexeme := scan 0 text.toList

end TypeText
end GroovyNew
