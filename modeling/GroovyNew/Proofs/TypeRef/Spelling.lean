/-
# What a text spells

`Spells tokens cs` says, without an algorithm, that the characters `cs` spell the tokens: they are the
characters of the tokens in order, with blanks anywhere between them, and no word is followed by an
identifier character.  `spells_iff` says that the scanner finds the tokens that a text spells, whatever
the offset it starts at; so every text spells exactly one sequence of tokens.

No blank is an identifier character (`Text.isWordChar_of_isBlank`).  Without that, a word could reach
across a blank and the rules for blanks and for words would overlap.
-/

import GroovyNew.TypeRef.Token

namespace GroovyNew

namespace Text

/-- The blanks one by one: none is an identifier character. -/
theorem blankRanges_not_isWordChar : (blankRanges.all fun range =>
    (List.range' range.1 (range.2 + 1 - range.1)).all fun n => !isWordChar (Char.ofNat n)) = true := by
  decide +kernel

/-- No blank is an identifier character. -/
theorem isWordChar_of_isBlank {c : Char} (h : isBlank c = true) : isWordChar c = false := by
  obtain ⟨range, hrange, hlow, hhigh⟩ := Ranges.has_iff.1 h
  have hmem : c.toNat ∈ List.range' range.1 (range.2 + 1 - range.1) := by
    rw [List.mem_range'_1]
    omega
  have hnone := List.all_eq_true.1 (List.all_eq_true.1 blankRanges_not_isWordChar range hrange) _ hmem
  rw [Char.ofNat_toNat, Bool.not_eq_true'] at hnone
  exact hnone

theorem isBlank_of_isWordChar {c : Char} (h : isWordChar c = true) : isBlank c = false := by
  cases hblank : isBlank c with
  | false => rfl
  | true => rw [isWordChar_of_isBlank hblank] at h; cases h

end Text

namespace TypeText

/-! ### Spelling -/

/-- The characters of a token. -/
def Token.text : Token → List Char
  | .question => ['?']
  | .less => ['<']
  | .greater => ['>']
  | .comma => [',']
  | .openBracket => ['[']
  | .closeBracket => [']']
  | .dot => ['.']
  | .word text => text.toList
  | .stray c => [c]

/-- A token of some text: a word has characters, identifier characters only, and a stray character is
none that has a meaning. -/
def Token.IsProper : Token → Prop
  | .word text => text.toList ≠ [] ∧ ∀ c ∈ text.toList, Text.isWordChar c = true
  | .stray c => Text.isBlank c = false ∧ Text.isWordChar c = false ∧ markOf c = .stray c
  | _ => True

/-- The token can end where the characters start: a word is a longest run. -/
def Token.EndsBefore : Token → List Char → Prop
  | .word _, c :: _ => Text.isWordChar c = false
  | _, _ => True

/-- The characters spell the tokens. -/
inductive Spells : List Token → List Char → Prop
  /-- The empty text. -/
  | nil : Spells [] []
  /-- A blank before a text. -/
  | blank {c : Char} {tokens : List Token} {cs : List Char} (isBlank : Text.isBlank c = true)
      (rest : Spells tokens cs) : Spells tokens (c :: cs)
  /-- A token before a text. -/
  | token {t : Token} {tokens : List Token} {cs : List Char} (proper : t.IsProper)
      (ends : t.EndsBefore cs) (rest : Spells tokens cs) : Spells (t :: tokens) (t.text ++ cs)

theorem Token.IsProper.utf8Length_pos {t : Token} (h : t.IsProper) : 0 < utf8Length t.text := by
  have hne : t.text ≠ [] := by
    cases t with
    | word text => exact h.1
    | _ => nofun
  obtain ⟨d, ds, hds⟩ := List.exists_cons_of_ne_nil hne
  have hpos : 0 < d.utf8Size := d.utf8Size_pos
  rw [hds, utf8Length_cons]
  omega

/-- Each token that a text spells takes one byte at least. -/
theorem Spells.length_le {tokens : List Token} {cs : List Char} (h : Spells tokens cs) :
    tokens.length ≤ utf8Length cs := by
  induction h with
  | nil => exact Nat.le_refl 0
  | blank hblank rest ih => rw [utf8Length_cons]; omega
  | token proper ends rest ih =>
    have hpos := proper.utf8Length_pos
    rw [List.length_cons, utf8Length_append]
    omega

/-! ### Scanning -/

/-- The tokens of lexemes. -/
def tokensOf (ls : List Lexeme) : List Token := ls.map Lexeme.token

@[simp] theorem tokensOf_nil : tokensOf [] = [] := rfl

@[simp] theorem tokensOf_cons (l : Lexeme) (ls : List Lexeme) :
    tokensOf (l :: ls) = l.token :: tokensOf ls := rfl

@[simp] theorem tokensOf_append (ls ms : List Lexeme) :
    tokensOf (ls ++ ms) = tokensOf ls ++ tokensOf ms := List.map_append

theorem scan_nil (offset : Nat) : scan offset [] = [] := by rw [scan]

theorem scan_blank {c : Char} (h : Text.isBlank c = true) (offset : Nat) (cs : List Char) :
    scan offset (c :: cs) = scan (offset + c.utf8Size) cs := by
  rw [scan, if_pos h]

theorem scan_mark {c : Char} (hblank : Text.isBlank c = false) (hword : Text.isWordChar c = false)
    (offset : Nat) (cs : List Char) :
    scan offset (c :: cs) = ⟨offset, markOf c⟩ :: scan (offset + c.utf8Size) cs := by
  rw [scan, if_neg (by simp [hblank]), if_neg (by simp [hword])]

/-- A word that is a longest run is scanned as one token. -/
theorem scan_word {text : String} {cs : List Char} (hproper : (Token.word text).IsProper)
    (hends : (Token.word text).EndsBefore cs) (offset : Nat) :
    scan offset (text.toList ++ cs) =
      ⟨offset, .word text⟩ :: scan (offset + utf8Length text.toList) cs := by
  obtain ⟨hne, hall⟩ := hproper
  obtain ⟨c, word, hword⟩ := List.exists_cons_of_ne_nil hne
  rw [hword] at hall
  have hc : Text.isWordChar c = true := hall c List.mem_cons_self
  have hrest : ∀ d ∈ word, Text.isWordChar d = true := fun d hd => hall d (List.mem_cons_of_mem _ hd)
  have hstop : cs.takeWhile Text.isWordChar = [] ∧ cs.dropWhile Text.isWordChar = cs := by
    cases cs with
    | nil => exact ⟨rfl, rfl⟩
    | cons d cs =>
      have hd : Text.isWordChar d = false := hends
      simp [hd]
  rw [hword, List.cons_append, scan, if_neg (by simp [Text.isBlank_of_isWordChar hc]), if_pos hc]
  simp only [List.takeWhile_append_of_pos hrest, List.dropWhile_append_of_pos hrest, hstop.1, hstop.2,
    List.append_nil]
  rw [← hword, String.ofList_toList]

/-- A token that a character forms has that character as its text. -/
theorem text_markOf (c : Char) : (markOf c).text = [c] := by
  unfold markOf
  split <;> rfl

theorem markOf_ne_word (c : Char) (text : String) : markOf c ≠ .word text := by
  unfold markOf
  split <;> nofun

theorem endsBefore_markOf (c : Char) (cs : List Char) : (markOf c).EndsBefore cs := by
  cases hmark : markOf c with
  | word text => exact absurd hmark (markOf_ne_word c text)
  | _ => trivial

theorem isProper_markOf {c : Char} (hblank : Text.isBlank c = false)
    (hword : Text.isWordChar c = false) : (markOf c).IsProper := by
  have htext := text_markOf c
  cases hmark : markOf c with
  | word text => exact absurd hmark (markOf_ne_word c text)
  | stray d =>
    rw [hmark] at htext
    obtain rfl : d = c := (List.cons.inj htext).1
    exact ⟨hblank, hword, hmark⟩
  | _ => trivial

/-- A proper token before a text that it ends at is the first one that is scanned. -/
theorem scan_token {t : Token} {cs : List Char} (hproper : t.IsProper) (hends : t.EndsBefore cs)
    (offset : Nat) :
    scan offset (t.text ++ cs) = ⟨offset, t⟩ :: scan (offset + utf8Length t.text) cs := by
  cases t with
  | word text => exact scan_word hproper hends offset
  | stray c =>
    obtain ⟨hblank, hword, hmark⟩ := hproper
    have hscan := scan_mark hblank hword offset cs
    rwa [hmark] at hscan
  | _ => exact scan_mark (by decide) (by decide) offset cs

/-- The tokens that the scanner finds are spelled by the text. -/
theorem spells_scan (offset : Nat) (cs : List Char) : Spells (tokensOf (scan offset cs)) cs := by
  induction offset, cs using scan.induct with
  | case1 offset => rw [scan_nil]; exact .nil
  | case2 offset c cs hblank ih => rw [scan_blank hblank]; exact .blank hblank ih
  | case3 offset c cs hblank hword word ih =>
    have htext : (Token.word (String.ofList word)).text = word := String.toList_ofList
    have hproper : (Token.word (String.ofList word)).IsProper := by
      refine ⟨by simp [word], fun d hd => ?_⟩
      rw [String.toList_ofList] at hd
      rcases List.mem_cons.1 hd with rfl | hd
      · exact hword
      · exact List.all_eq_true.1 List.all_takeWhile d hd
    have hends : (Token.word (String.ofList word)).EndsBefore (cs.dropWhile Text.isWordChar) := by
      have hhead := List.head?_dropWhile_not Text.isWordChar cs
      cases hrest : cs.dropWhile Text.isWordChar with
      | nil => trivial
      | cons d ds => rwa [hrest] at hhead
    have hsplit : c :: cs = (Token.word (String.ofList word)).text ++ cs.dropWhile Text.isWordChar := by
      rw [htext, List.cons_append, List.takeWhile_append_dropWhile]
    have hlength : utf8Length (Token.word (String.ofList word)).text = utf8Length word :=
      congrArg utf8Length htext
    rw [hsplit, scan_token hproper hends, hlength]
    exact .token hproper hends ih
  | case4 offset c cs hblank hword ih =>
    rw [Bool.not_eq_true] at hblank hword
    have hproper : (markOf c).IsProper := isProper_markOf hblank hword
    have hends : (markOf c).EndsBefore cs := endsBefore_markOf c cs
    have hsplit : c :: cs = (markOf c).text ++ cs := by rw [text_markOf, List.singleton_append]
    rw [scan_mark hblank hword, hsplit]
    exact .token hproper hends ih

/-- The scanner finds the tokens that a text spells. -/
theorem tokensOf_scan_of_spells {tokens : List Token} {cs : List Char} (h : Spells tokens cs)
    (offset : Nat) : tokensOf (scan offset cs) = tokens := by
  induction h generalizing offset with
  | nil => rw [scan_nil, tokensOf_nil]
  | blank hblank rest ih => rw [scan_blank hblank, ih]
  | token hproper hends rest ih => rw [scan_token hproper hends, tokensOf_cons, ih]

/-- **A text spells the tokens that the scanner finds, and no others.** -/
theorem spells_iff {tokens : List Token} {cs : List Char} (offset : Nat) :
    Spells tokens cs ↔ tokensOf (scan offset cs) = tokens :=
  ⟨fun h => tokensOf_scan_of_spells h offset, fun h => h ▸ spells_scan offset cs⟩

end TypeText
end GroovyNew
