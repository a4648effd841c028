/-
# The grammar of type texts

A `Derivation` is a derivation tree of the grammar

    type ::= '?' [('extends' | 'super') type]
           | name ['<' type (',' type)* '>'] ('[' ']')*
    name ::= identifier ('.' identifier)*

with `Derivation.tokens` its yield and `Derivation.typeRef` the type that it denotes.  The tree does not
record how its text is laid out; `Derivation.Derives` says that a text spells its tokens.

What follows a type in a type text is a comma, a closing angle bracket or nothing (`Follows`).  None of
these continues a type, and so the tokens before them are those of one tree only
(`Derivation.isDetermined`).
-/

import GroovyNew.ArgumentError
import GroovyNew.Proofs.TypeRef.Spelling

namespace GroovyNew

namespace TypeRef

/-- The array type of the given number of dimensions over an element; the element itself without
dimensions. -/
def withDimensions (element : TypeRef) : Nat → TypeRef
  | 0 => element
  | n + 1 => .array element (n + 1)

/-- A class with its type arguments; the class itself without arguments. -/
def applied (base : TypeRef) : List TypeRef → TypeRef
  | [] => base
  | args => .generic base args

/-- The type is no array, so that brackets after it open the first dimension. -/
def IsElement (t : TypeRef) : Prop := t.arrayOf = .array t 1

/-- One pair of brackets more is one dimension more. -/
theorem IsElement.arrayOf_withDimensions {t : TypeRef} (h : t.IsElement) (n : Nat) :
    (t.withDimensions n).arrayOf = t.withDimensions (n + 1) := by
  cases n with
  | zero => exact h
  | succ n => rfl

end TypeRef

namespace TypeText

/-! ### Derivation trees -/

/-- A word of a name: it does not start with an ASCII digit. -/
@[ext] structure Identifier where
  text : String
  not_digit : ∀ c ∈ text.toList.head?, c.isDigit = false

/-- A name: identifiers joined by dots, at least one. -/
structure DottedName where
  first : Identifier
  others : List Identifier

/-- A derivation tree of a type. -/
inductive Derivation where
  /-- A bare `?`. -/
  | wildcard
  /-- `? extends` or `? super` and a bound, an upper or a lower one. -/
  | bounded (isUpper : Bool) (bound : Derivation)
  /-- A name, type arguments in angle brackets if there are any, and pairs of brackets. -/
  | named (name : DottedName) (args : List Derivation) (dimensions : Nat)

/-! ### Tokens of a tree -/

/-- The word before an upper or a lower bound. -/
def keyword : (isUpper : Bool) → String
  | true => "extends"
  | false => "super"

theorem keyword_inj {isUpper isUpper' : Bool} (h : keyword isUpper = keyword isUpper') :
    isUpper = isUpper' := by
  revert h
  cases isUpper <;> cases isUpper' <;> decide

/-- The tokens of a name. -/
def DottedName.tokens (name : DottedName) : List Token :=
  .word name.first.text :: name.others.flatMap fun i => [.dot, .word i.text]

@[simp] theorem DottedName.tokens_nil (first : Identifier) :
    DottedName.tokens ⟨first, []⟩ = [.word first.text] := rfl

@[simp] theorem DottedName.tokens_cons (first second : Identifier) (others : List Identifier) :
    DottedName.tokens ⟨first, second :: others⟩ =
      .word first.text :: .dot :: DottedName.tokens ⟨second, others⟩ := by
  simp [DottedName.tokens]

/-- The tokens of pairs of brackets. -/
def bracketTokens : Nat → List Token
  | 0 => []
  | n + 1 => .openBracket :: .closeBracket :: bracketTokens n

/-- The tokens of types, a comma between one and the next. -/
def separated (types : List (List Token)) : List Token := List.intercalate [.comma] types

@[simp] theorem separated_singleton (type : List Token) : separated [type] = type :=
  List.intercalate_singleton

@[simp] theorem separated_cons_cons (first second : List Token) (types : List (List Token)) :
    separated (first :: second :: types) = first ++ .comma :: separated (second :: types) := by
  simp [separated, List.intercalate_cons_cons]

/-- The tokens of type arguments: nothing without arguments. -/
def angled : List (List Token) → List Token
  | [] => []
  | types => .less :: separated types ++ [.greater]

theorem angled_cons (type : List Token) (types : List (List Token)) :
    angled (type :: types) = .less :: (separated (type :: types) ++ [.greater]) := rfl

namespace Derivation

mutual

/-- The tokens of a type. -/
def tokens : Derivation → List Token
  | .wildcard => [.question]
  | .bounded isUpper bound => .question :: .word (keyword isUpper) :: bound.tokens
  | .named name args dimensions => name.tokens ++ angled (tokensEach args) ++ bracketTokens dimensions

/-- The tokens of each of some types. -/
def tokensEach : List Derivation → List (List Token)
  | [] => []
  | d :: ds => d.tokens :: tokensEach ds

end

end Derivation

/-! ### The type of a tree -/

/-- The text of a name. -/
def DottedName.text (name : DottedName) : String :=
  String.intercalate "." ((name.first :: name.others).map Identifier.text)

/-- The names that denote no class. -/
def rawNames : List String :=
  ["boolean", "byte", "short", "char", "int", "long", "float", "double", "void"]

/-- The type that a name denotes. -/
def DottedName.typeRef (name : DottedName) : TypeRef :=
  if name.text ∈ rawNames then .raw name.text else .id name.text

namespace Derivation

mutual

/-- The type that a tree denotes. -/
def typeRef : Derivation → TypeRef
  | .wildcard => .wildcard none true
  | .bounded isUpper bound => .wildcard (some bound.typeRef) isUpper
  | .named name args dimensions =>
    (name.typeRef.applied (typeRefEach args)).withDimensions dimensions

/-- The types that trees denote. -/
def typeRefEach : List Derivation → List TypeRef
  | [] => []
  | d :: ds => d.typeRef :: typeRefEach ds

end

@[simp] theorem tokensEach_eq_map (ds : List Derivation) : tokensEach ds = ds.map tokens := by
  induction ds with
  | nil => rfl
  | cons d ds ih => rw [tokensEach, ih, List.map_cons]

@[simp] theorem typeRefEach_eq_map (ds : List Derivation) : typeRefEach ds = ds.map typeRef := by
  induction ds with
  | nil => rfl
  | cons d ds ih => rw [typeRefEach, ih, List.map_cons]

/-- Induction over a tree, with the property for every type argument. -/
@[elab_as_elim]
theorem induct {motive : Derivation → Prop} (wildcard : motive .wildcard)
    (bounded : ∀ isUpper bound, motive bound → motive (.bounded isUpper bound))
    (named : ∀ name args dimensions, (∀ d ∈ args, motive d) → motive (.named name args dimensions)) :
    ∀ d, motive d
  | .wildcard => wildcard
  | .bounded isUpper bound => bounded isUpper bound (induct wildcard bounded named bound)
  | .named name args dimensions => named name args dimensions fun d _ => induct wildcard bounded named d

/-- The text spells the tokens of the tree. -/
def Derives (d : Derivation) (text : String) : Prop := Spells d.tokens text.toList

end Derivation

/-! ### What can follow a type -/

/-- What can follow a type in a type text: nothing, a comma or a closing angle bracket. -/
def Follows : List Token → Prop
  | [] | .comma :: _ | .greater :: _ => True
  | _ => False

theorem follows_nil : Follows [] := trivial

theorem follows_comma (ts : List Token) : Follows (.comma :: ts) := trivial

theorem follows_greater (ts : List Token) : Follows (.greater :: ts) := trivial

theorem Follows.head?_ne {t : Token} {ts : List Token} (h : Follows ts) (hcomma : t ≠ .comma)
    (hgreater : t ≠ .greater) : ts.head? ≠ some t := by
  unfold Follows at h
  split at h
  · nofun
  · simpa using hcomma.symm
  · simpa using hgreater.symm
  · cases h

/-- Brackets and what can follow them begin with an opening bracket or with what can follow. -/
theorem Follows.head?_bracketTokens_ne {t : Token} {n : Nat} {ts : List Token} (h : Follows ts)
    (hopen : t ≠ .openBracket) (hcomma : t ≠ .comma) (hgreater : t ≠ .greater) :
    (bracketTokens n ++ ts).head? ≠ some t := by
  cases n with
  | zero => exact h.head?_ne hcomma hgreater
  | succ n => simpa [bracketTokens] using hopen.symm

theorem head?_angled_ne {t : Token} {types : List (List Token)} {ts : List Token} (hless : t ≠ .less)
    (h : ts.head? ≠ some t) : (angled types ++ ts).head? ≠ some t := by
  cases types with
  | nil => exact h
  | cons type types => simpa [angled] using hless.symm

/-! ### Tokens have one tree -/

/-- The tokens of a name end where no dot follows. -/
theorem DottedName.tokens_append_inj {d e : DottedName} {ts us : List Token}
    (h : d.tokens ++ ts = e.tokens ++ us) (ht : ts.head? ≠ some .dot) (hu : us.head? ≠ some .dot) :
    d = e ∧ ts = us := by
  obtain ⟨first, others⟩ := d
  induction others generalizing first e with
  | nil =>
    obtain ⟨first', _ | ⟨second', others'⟩⟩ := e
    · obtain ⟨hfirst, hrest⟩ : first.text = first'.text ∧ ts = us := by simpa using h
      exact ⟨by rw [Identifier.ext hfirst], hrest⟩
    · obtain ⟨-, rfl⟩ := List.cons.inj h
      exact absurd rfl ht
  | cons second others ih =>
    obtain ⟨first', _ | ⟨second', others'⟩⟩ := e
    · obtain ⟨-, rfl⟩ := List.cons.inj h
      exact absurd rfl hu
    · obtain ⟨hfirst, hrest⟩ : first.text = first'.text ∧
          tokens ⟨second, others⟩ ++ ts = tokens ⟨second', others'⟩ ++ us := by simpa using h
      obtain ⟨hothers, rfl⟩ := ih second hrest
      obtain ⟨rfl, rfl⟩ := DottedName.mk.inj hothers
      exact ⟨by rw [Identifier.ext hfirst], rfl⟩

/-- Brackets end where no other bracket opens. -/
theorem bracketTokens_append_inj {m n : Nat} {ts us : List Token}
    (h : bracketTokens m ++ ts = bracketTokens n ++ us) (ht : ts.head? ≠ some .openBracket)
    (hu : us.head? ≠ some .openBracket) : m = n ∧ ts = us := by
  induction m generalizing n with
  | zero =>
    cases n with
    | zero => exact ⟨rfl, h⟩
    | succ n =>
      obtain rfl : ts = _ := h
      exact absurd rfl ht
  | succ m ih =>
    cases n with
    | zero =>
      obtain rfl : _ = us := h
      exact absurd rfl hu
    | succ n =>
      obtain ⟨rfl, rfl⟩ := ih (List.cons.inj (List.cons.inj h).2).2
      exact ⟨rfl, rfl⟩

namespace Derivation

/-- The tokens of the tree, before something that can follow a type, are those of no other tree. -/
def IsDetermined (d : Derivation) : Prop :=
  ∀ {e : Derivation} {ts us : List Token}, Follows ts → Follows us →
    d.tokens ++ ts = e.tokens ++ us → d = e ∧ ts = us

/-- Types separated by commas end at a closing angle bracket. -/
theorem separated_append_inj {d e : Derivation} {ds es : List Derivation} {ts us : List Token}
    (ih : ∀ c ∈ d :: ds, c.IsDetermined)
    (h : separated ((d :: ds).map tokens) ++ .greater :: ts =
      separated ((e :: es).map tokens) ++ .greater :: us) :
    d :: ds = e :: es ∧ ts = us := by
  -- The first types agree.  What follows them is a comma or the closing bracket.
  induction ds generalizing d e es with
  | nil =>
    have hd : d.IsDetermined := ih d List.mem_cons_self
    rw [List.map_cons, List.map_nil, separated_singleton] at h
    cases es with
    | nil =>
      rw [List.map_cons, List.map_nil, separated_singleton] at h
      obtain ⟨rfl, hrest⟩ := hd (follows_greater ts) (follows_greater us) h
      exact ⟨rfl, (List.cons.inj hrest).2⟩
    | cons e' es =>
      rw [List.map_cons, List.map_cons, separated_cons_cons, List.append_assoc] at h
      obtain ⟨-, hrest⟩ := hd (follows_greater ts) (follows_comma _) h
      cases hrest
  | cons d' ds ihds =>
    have hd : d.IsDetermined := ih d List.mem_cons_self
    rw [List.map_cons, List.map_cons, separated_cons_cons, List.append_assoc] at h
    cases es with
    | nil =>
      rw [List.map_cons, List.map_nil, separated_singleton] at h
      obtain ⟨-, hrest⟩ := hd (follows_comma _) (follows_greater us) h
      cases hrest
    | cons e' es =>
      rw [List.map_cons, List.map_cons, separated_cons_cons, List.append_assoc] at h
      obtain ⟨rfl, hrest⟩ := hd (follows_comma _) (follows_comma _) h
      have hds : ∀ c ∈ d' :: ds, c.IsDetermined := fun c hc => ih c (List.mem_cons_of_mem d hc)
      obtain ⟨htail, rfl⟩ := ihds hds (List.cons.inj hrest).2
      rw [htail]
      exact ⟨rfl, rfl⟩

/-- Type arguments end at a closing angle bracket; without any, no angle bracket opens. -/
theorem angled_append_inj {ds es : List Derivation} {ts us : List Token}
    (ih : ∀ d ∈ ds, d.IsDetermined)
    (h : angled (ds.map tokens) ++ ts = angled (es.map tokens) ++ us)
    (ht : ts.head? ≠ some .less) (hu : us.head? ≠ some .less) : ds = es ∧ ts = us := by
  cases ds with
  | nil =>
    cases es with
    | nil => exact ⟨rfl, h⟩
    | cons e es =>
      obtain rfl : ts = _ := h
      exact absurd rfl ht
  | cons d ds =>
    cases es with
    | nil =>
      obtain rfl : _ = us := h
      exact absurd rfl hu
    | cons e es =>
      have hinner := (List.cons.inj h).2
      simp only [List.append_eq, List.append_assoc, List.singleton_append] at hinner
      exact separated_append_inj ih hinner

/-- **The grammar is unambiguous.** -/
theorem isDetermined (d : Derivation) : d.IsDetermined := by
  induction d using Derivation.induct with
  | wildcard =>
    intro e ts us ht hu h
    cases e with
    | wildcard => exact ⟨rfl, (List.cons.inj h).2⟩
    | bounded isUpper bound =>
      -- No word can follow a bare `?`.
      obtain rfl := (List.cons.inj h).2
      exact ht.elim
    | named name args dimensions => cases (List.cons.inj h).1
  | bounded isUpper bound ih =>
    intro e ts us ht hu h
    cases e with
    | wildcard =>
      obtain rfl := (List.cons.inj h).2
      exact hu.elim
    | bounded isUpper' bound' =>
      obtain ⟨hword, hbound⟩ := List.cons.inj (List.cons.inj h).2
      obtain rfl := keyword_inj (Token.word.inj hword)
      obtain ⟨rfl, rfl⟩ := ih ht hu hbound
      exact ⟨rfl, rfl⟩
    | named name args dimensions => cases (List.cons.inj h).1
  | named name args dimensions ih =>
    intro e ts us ht hu h
    cases e with
    | wildcard => cases (List.cons.inj h).1
    | bounded isUpper bound => cases (List.cons.inj h).1
    | named name' args' dimensions' =>
      -- Each part ends where the next one, or what follows the type, begins.
      simp only [tokens, tokensEach_eq_map, List.append_assoc] at h
      obtain ⟨rfl, hargs⟩ := DottedName.tokens_append_inj h
        (head?_angled_ne nofun (ht.head?_bracketTokens_ne nofun nofun nofun))
        (head?_angled_ne nofun (hu.head?_bracketTokens_ne nofun nofun nofun))
      obtain ⟨rfl, hdimensions⟩ := angled_append_inj ih hargs
        (ht.head?_bracketTokens_ne nofun nofun nofun) (hu.head?_bracketTokens_ne nofun nofun nofun)
      obtain ⟨rfl, rfl⟩ := bracketTokens_append_inj hdimensions (ht.head?_ne nofun nofun)
        (hu.head?_ne nofun nofun)
      exact ⟨rfl, rfl⟩

end Derivation

end TypeText
end GroovyNew
