/-
# Reading the text of a type back

The types that type texts denote are the source-shaped ones, and each of them is denoted by its own text
(`TypeRef.isSourceShaped_iff_ofText`).

The second half goes through derivation trees.  Printing the type of a tree spells the tokens of the tree
again, so the parser finds the tree and with it the type.  A printed type mostly ends in a word, and a
word is spelled only where it ends: what is printed spells the tree in front of anything that does not go
on with the word (`TypeText.EndsWord`).  The printer puts such a character behind every type:

| printed after a type | why it ends a word |
| --- | --- |
| `,` and a blank, `>` | next type argument, end of the arguments |
| `<`, `[` | behind the name of a generic type, behind the element of an array |
| nothing | end of the text |
-/

import GroovyNew.Proofs.TypeRef.SourceShape
import Mathlib.Data.Set.Operations

namespace GroovyNew
namespace TypeText

/-! ### Where a word ends -/

/-- The characters do not go on with a word. -/
def EndsWord (cs : List Char) : Prop := ∀ c ∈ cs.head?, Text.isWordChar c = false

theorem endsWord_nil : EndsWord [] := nofun

theorem endsWord_cons {c : Char} (cs : List Char) (h : Text.isWordChar c = false) :
    EndsWord (c :: cs) := by
  intro d hd
  obtain rfl : c = d := Option.some.inj hd
  exact h

theorem EndsWord.endsBefore {cs : List Char} (h : EndsWord cs) (t : Token) : t.EndsBefore cs := by
  cases cs with
  | nil => cases t <;> trivial
  | cons c cs =>
    have hc : Text.isWordChar c = false := h c rfl
    cases t with
    | word text => exact hc
    | _ => trivial

/-- A word before something that does not go on with it. -/
theorem Spells.word {text : String} {tokens : List Token} {cs : List Char}
    (hproper : (Token.word text).IsProper) (hcs : EndsWord cs) (h : Spells tokens cs) :
    Spells (.word text :: tokens) (text.toList ++ cs) :=
  .token hproper (hcs.endsBefore _) h

/-- A blank before a text. -/
theorem Spells.space {tokens : List Token} {cs : List Char} (h : Spells tokens cs) :
    Spells tokens (' ' :: cs) := .blank (by decide) h

/-! ### Printing spells the tree -/

/-- The text of a name spells its tokens. -/
theorem DottedName.spells_text {name : DottedName} (hname : name.IsWritten) {tokens : List Token}
    {cs : List Char} (h : Spells tokens cs) (hcs : EndsWord cs) :
    Spells (name.tokens ++ tokens) (name.text.toList ++ cs) := by
  obtain ⟨first, others⟩ := name
  induction others generalizing first with
  | nil =>
    rw [tokens_nil]
    have hfirst := hname _ List.mem_cons_self
    simpa [text] using Spells.word hfirst hcs h
  | cons second others ih =>
    have hfirst := hname _ List.mem_cons_self
    have hsecond : IsWritten ⟨second, others⟩ := by
      rw [isWritten_iff] at hname ⊢
      exact (List.forall_mem_cons.1 hname).2
    have hrest := ih second hsecond
    have hdot : Spells (.dot :: (DottedName.tokens ⟨second, others⟩ ++ tokens))
        ('.' :: ((DottedName.text ⟨second, others⟩).toList ++ cs)) := .token trivial trivial hrest
    have hends := endsWord_cons (c := '.') ((DottedName.text ⟨second, others⟩).toList ++ cs) (by decide)
    simpa [text_cons] using Spells.word hfirst hends hdot

/-- The brackets of an array spell its dimensions. -/
theorem spells_brackets {tokens : List Token} {cs : List Char} (h : Spells tokens cs) (n : Nat) :
    Spells (bracketTokens n ++ tokens) ((String.join (List.replicate n "[]")).toList ++ cs) := by
  induction n with
  | zero => simpa [bracketTokens] using h
  | succ n ih =>
    have hclose : Spells (.closeBracket :: (bracketTokens n ++ tokens))
        (']' :: ((String.join (List.replicate n "[]")).toList ++ cs)) := .token trivial trivial ih
    have hopen : Spells (.openBracket :: .closeBracket :: (bracketTokens n ++ tokens))
        ('[' :: ']' :: ((String.join (List.replicate n "[]")).toList ++ cs)) :=
      .token trivial trivial hclose
    simpa [bracketTokens, List.replicate_succ] using hopen

/-- Brackets do not go on with a word, nor does what follows them. -/
theorem EndsWord.brackets {cs : List Char} (h : EndsWord cs) (n : Nat) :
    EndsWord ((String.join (List.replicate n "[]")).toList ++ cs) := by
  cases n with
  | zero => simpa using h
  | succ n =>
    have hopen := endsWord_cons (c := '[')
      (']' :: ((String.join (List.replicate n "[]")).toList ++ cs)) (by decide)
    simpa [List.replicate_succ] using hopen

theorem toText_withDimensions (element : TypeRef) (n : Nat) :
    (element.withDimensions n).toText =
      element.toText ++ String.join (List.replicate n "[]") := by
  cases n with
  | zero => simp [TypeRef.withDimensions]
  | succ n => rfl

namespace Derivation

/-- The text of the type spells the tree, before something that does not go on with its last word. -/
def IsPrinted (d : Derivation) : Prop :=
  ∀ {tokens : List Token} {cs : List Char}, Spells tokens cs → EndsWord cs →
    Spells (d.tokens ++ tokens) (d.typeRef.toText.toList ++ cs)

/-- The texts of type arguments spell their trees. -/
theorem spells_argsText {d : Derivation} {ds : List Derivation} (ih : ∀ c ∈ d :: ds, c.IsPrinted)
    {tokens : List Token} {cs : List Char} (h : Spells tokens cs) (hcs : EndsWord cs) :
    Spells (separated ((d :: ds).map Derivation.tokens) ++ tokens)
      ((TypeRef.argsText ((d :: ds).map typeRef)).toList ++ cs) := by
  induction ds generalizing d with
  | nil =>
    rw [List.map_cons, List.map_nil, separated_singleton]
    exact ih d List.mem_cons_self h hcs
  | cons e ds ihds =>
    have hrest := ihds fun c hc => ih c (List.mem_cons_of_mem d hc)
    have hcomma : Spells (.comma :: (separated ((e :: ds).map Derivation.tokens) ++ tokens))
        (',' :: ' ' :: ((TypeRef.argsText ((e :: ds).map typeRef)).toList ++ cs)) :=
      .token trivial trivial hrest.space
    have hends := endsWord_cons (c := ',')
      (' ' :: ((TypeRef.argsText ((e :: ds).map typeRef)).toList ++ cs)) (by decide)
    simpa [TypeRef.argsText] using ih d List.mem_cons_self hcomma hends

/-- **Printing spells the tree.** -/
theorem isPrinted {d : Derivation} (h : d.IsWritten) : d.IsPrinted := by
  induction d using Derivation.induct with
  | wildcard =>
    intro tokens cs hrest hcs
    exact .token trivial trivial hrest
  | bounded isUpper bound ih =>
    intro tokens cs hrest hcs
    have hbound := (ih (isWritten_bounded_iff.1 h) hrest hcs).space
    have hkeyword : (Token.word (keyword isUpper)).IsProper :=
      h _ (List.mem_cons_of_mem _ List.mem_cons_self)
    have hword := (Spells.word hkeyword (endsWord_cons _ (by decide)) hbound).space
    have hquestion := Spells.token (t := .question) trivial trivial hword
    cases isUpper with
    | true => simpa [Derivation.tokens, typeRef, TypeRef.toText, keyword, Token.text] using hquestion
    | false => simpa [Derivation.tokens, typeRef, TypeRef.toText, keyword, Token.text] using hquestion
  | named name args dimensions ih =>
    intro tokens cs hrest hcs
    obtain ⟨hname, hargs⟩ := isWritten_named_iff.1 h
    have hbrackets := spells_brackets hrest dimensions
    have hends := hcs.brackets dimensions
    have htext : name.typeRef.toText = name.text := by
      unfold DottedName.typeRef
      split <;> rfl
    rw [typeRef, typeRefEach_eq_map, toText_withDimensions, Derivation.tokens, tokensEach_eq_map]
    cases args with
    | nil =>
      simpa [TypeRef.applied, htext, angled] using name.spells_text hname hbrackets hends
    | cons arg args =>
      have hgreater := Spells.token (t := .greater) trivial trivial hbrackets
      have hinner := spells_argsText (fun c hc => ih c hc (hargs c hc)) hgreater
        (endsWord_cons _ (by decide))
      have hless := Spells.token (t := .less) trivial trivial hinner
      have hspells := name.spells_text hname hless (endsWord_cons _ (by decide))
      simpa [TypeRef.applied, TypeRef.toText, htext, angled, Token.text] using hspells

end Derivation

end TypeText

namespace TypeRef

/-- A type that a text denotes is source shaped. -/
theorem isSourceShaped_of_ofText_eq_ok {text : String} {t : TypeRef} (h : ofText text = .ok t) :
    t.IsSourceShaped := by
  obtain ⟨d, hd, rfl⟩ := TypeText.exists_of_ofText_eq_ok h
  have hwritten : d.IsWritten := TypeText.isProper_of_spells hd
  exact hwritten.isSourceShaped

/-- A source-shaped type is denoted by its own text. -/
theorem IsSourceShaped.ofText_toText {t : TypeRef} (h : t.IsSourceShaped) :
    ofText t.toText = .ok t := by
  obtain ⟨d, hd, rfl⟩ := TypeText.exists_of_isSourceShaped h
  have hspells : d.Derives d.typeRef.toText := by
    simpa [TypeText.Derivation.Derives] using
      TypeText.Derivation.isPrinted hd .nil TypeText.endsWord_nil
  exact hspells.ofText_eq_ok

/-- **Type texts denote the source-shaped types, and every such type can be read back from its text.**
So no two source-shaped types have the same text. -/
theorem isSourceShaped_iff_ofText :
    (∀ t : TypeRef, (∃ text, ofText text = .ok t) ↔ t.IsSourceShaped) ∧
      (∀ t : TypeRef, t.IsSourceShaped → ofText t.toText = .ok t) ∧
      Set.InjOn toText {t | t.IsSourceShaped} := by
  refine ⟨fun t => ⟨?_, fun h => ⟨t.toText, h.ofText_toText⟩⟩, fun t h => h.ofText_toText, ?_⟩
  · rintro ⟨text, h⟩
    exact isSourceShaped_of_ofText_eq_ok h
  · intro t ht u hu htext
    have hread : ofText u.toText = .ok t := htext ▸ IsSourceShaped.ofText_toText ht
    exact Except.ok.inj (hread.symm.trans (IsSourceShaped.ofText_toText hu))

/-- `extends.Map<? super ?, ? extends super[]>[][]`: names like the words before bounds, and a wildcard
for a bound. -/
def likeKeywords : TypeRef :=
  .array (.generic (.id "extends.Map") [.wildcard (some (.wildcard none true)) false,
    .wildcard (some (.array (.id "super") 1)) true]) 2

/-- The type of `likeKeywords` can be read back from its text. -/
theorem ofText_toText_likeKeywords :
    likeKeywords.IsSourceShaped ∧ ofText likeKeywords.toText = .ok likeKeywords := by
  have hextends : Text.IsIdentifier "extends" := by decide +kernel
  have hmap : Text.IsIdentifier "Map" := by decide +kernel
  have hsuper : Text.IsIdentifier "super" := by decide +kernel
  have hname : Text.IsDottedName "extends.Map" := ⟨["extends", "Map"], List.cons_ne_nil _ _,
    List.forall_mem_cons.2 ⟨hextends, List.forall_mem_singleton.2 hmap⟩, by decide⟩
  have hlower : IsSourceShaped (.wildcard (some (.wildcard none true)) false) := .bounded false .unbounded
  have hupper : IsSourceShaped (.wildcard (some (.array (.id "super") 1)) true) :=
    .bounded true (.array (.id hsuper.isDottedName (by decide)) trivial (by decide))
  have helement := IsSourceShaped.generic (.id hname (by decide)) trivial (List.cons_ne_nil _ _)
    (List.forall_mem_cons.2 ⟨hlower, List.forall_mem_singleton.2 hupper⟩)
  have hshaped : likeKeywords.IsSourceShaped := .array helement trivial (by decide)
  exact ⟨hshaped, isSourceShaped_iff_ofText.2.1 likeKeywords hshaped⟩

/-- An array of wildcards has the text of a wildcard of arrays. -/
example : (array (.wildcard (some (.id "A")) true) 1).toText =
    (wildcard (some (.array (.id "A") 1)) true).toText := by decide

end TypeRef
end GroovyNew
