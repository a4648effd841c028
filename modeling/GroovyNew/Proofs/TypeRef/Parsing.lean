/-
# The parser and the grammar of type texts

The parser accepts the texts of the grammar and no others, and the type that it returns is the type of
the one derivation tree of the text (`ofText_eq_ok_iff_derives`).

| | what is read is derived | what is derived is read |
| --- | --- | --- |
| names | `exists_of_name_eq_ok` | `name_of_tokens` |
| brackets | `exists_of_brackets_eq_ok` | `brackets_of_tokens` |
| types | `exists_of_type_eq_ok` | `Derivation.isRead` |

The first column is by recursion on the parser, for types on the fuel; the second is by induction on the
tree.  The parser is greedy, and so the second column asks that what follows the tokens cannot continue
them.  `type` and `arguments` together take two units of fuel for a token, so that the fuel given for a
text lasts.
-/

import GroovyNew.Proofs.TypeRef.Grammar

namespace GroovyNew
namespace TypeText

/-! ### Names -/

theorem startsWithDigit_eq_false_iff (word : String) :
    startsWithDigit word = false ↔ ∀ c ∈ word.toList.head?, c.isDigit = false := by
  unfold startsWithDigit
  cases word.toList with
  | nil => simp
  | cons c cs => simp

theorem Identifier.startsWithDigit_text (i : Identifier) : startsWithDigit i.text = false :=
  (startsWithDigit_eq_false_iff i.text).2 i.not_digit

theorem DottedName.named_text (name : DottedName) : TypeRef.named name.text = name.typeRef := by
  have hraw : TypeRef.isRawName name.text = true ↔ name.text ∈ rawNames := by
    simp [TypeRef.isRawName, TypeRef.isPrimitiveName, TypeRef.primitiveNames, rawNames, or_assoc]
  simp [TypeRef.named, DottedName.typeRef, hraw]

theorem DottedName.isElement_applied (name : DottedName) (args : List TypeRef) :
    (name.typeRef.applied args).IsElement := by
  cases args with
  | cons arg args => rfl
  | nil =>
    change name.typeRef.IsElement
    unfold typeRef
    split <;> rfl

/-! ### What the parser reads is derived -/

theorem DottedName.text_cons (first second : Identifier) (others : List Identifier) :
    DottedName.text ⟨first, second :: others⟩ =
      first.text ++ "." ++ DottedName.text ⟨second, others⟩ := by
  simp [DottedName.text, String.intercalate_cons_cons]

/-- A name that is read is derived. -/
theorem exists_of_name_eq_ok {stop : Nat} {ls rest : List Lexeme} {n : String}
    (h : name stop ls = .ok (n, rest)) :
    ∃ d : DottedName, d.text = n ∧ tokensOf ls = d.tokens ++ tokensOf rest := by
  fun_induction name stop ls generalizing n with
  | case3 offset w dot ls hdigit n' rest' hrest ih =>
    rw [Bool.not_eq_true, startsWithDigit_eq_false_iff] at hdigit
    obtain ⟨rfl, rfl⟩ := Prod.mk.inj (Except.ok.inj h)
    obtain ⟨⟨first, others⟩, rfl, htokens⟩ := ih hrest
    refine ⟨⟨⟨w, hdigit⟩, first :: others⟩, DottedName.text_cons .., ?_⟩
    simp [htokens, DottedName.tokens]
  | case5 offset w ls hdot hdigit =>
    rw [Bool.not_eq_true, startsWithDigit_eq_false_iff] at hdigit
    obtain ⟨rfl, rfl⟩ := Prod.mk.inj (Except.ok.inj h)
    refine ⟨⟨⟨w, hdigit⟩, []⟩, ?_, ?_⟩
    · simp [DottedName.text]
    · simp [DottedName.tokens]
  | _ => cases h

/-- Brackets that are read are dimensions. -/
theorem exists_of_brackets_eq_ok {stop : Nat} {element t : TypeRef} {ls rest : List Lexeme}
    (helement : element.IsElement) (n : Nat)
    (h : brackets stop (element.withDimensions n) ls = .ok (t, rest)) :
    ∃ m, element.withDimensions (n + m) = t ∧ tokensOf ls = bracketTokens m ++ tokensOf rest := by
  generalize hstart : element.withDimensions n = start at h
  fun_induction brackets stop start ls generalizing n with
  | case1 start offset offset' ls ih =>
    have hnext : element.withDimensions (n + 1) = start.arrayOf := by
      rw [← hstart, helement.arrayOf_withDimensions]
    obtain ⟨m, ht, htokens⟩ := ih (n + 1) hnext h
    refine ⟨m + 1, ?_, ?_⟩
    · rw [← ht, Nat.add_assoc, Nat.add_comm 1 m]
    · rw [tokensOf_cons, tokensOf_cons, htokens, bracketTokens, List.cons_append, List.cons_append]
  | case2 => cases h
  | case3 start ls =>
    obtain ⟨rfl, rfl⟩ := Prod.mk.inj (Except.ok.inj h)
    exact ⟨0, hstart, rfl⟩

/-- How a type can have been read. -/
theorem type_eq_ok {stop fuel : Nat} {ls rest : List Lexeme} {t : TypeRef}
    (h : type stop (fuel + 1) ls = .ok (t, rest)) :
    (∃ isUpper ls' bound, tokensOf ls = .question :: .word (keyword isUpper) :: tokensOf ls' ∧
      type stop fuel ls' = .ok (bound, rest) ∧ t = .wildcard (some bound) isUpper) ∨
    (tokensOf ls = .question :: tokensOf rest ∧ t = .wildcard none true) ∨
    (∃ n ls', name stop ls = .ok (n, ls') ∧ brackets stop (.named n) ls' = .ok (t, rest)) ∨
    (∃ n ls₁ ls₂ ls₃ ls₄ args, name stop ls = .ok (n, ls₁) ∧ tokensOf ls₁ = .less :: tokensOf ls₂ ∧
      arguments stop fuel ls₂ = .ok (args, ls₃) ∧ tokensOf ls₃ = .greater :: tokensOf ls₄ ∧
      brackets stop (.generic (.named n) args) ls₄ = .ok (t, rest)) := by
  unfold type at h
  split at h
  · cases h
  · rename_i fuel' offset offset' ls' hfuel
    obtain rfl := Nat.succ.inj hfuel
    split at h
    · cases h
    · rename_i bound rest' hbound
      obtain ⟨rfl, rfl⟩ := Prod.mk.inj (Except.ok.inj h)
      exact .inl ⟨true, ls', bound, rfl, hbound, rfl⟩
  · rename_i fuel' offset offset' ls' hfuel
    obtain rfl := Nat.succ.inj hfuel
    split at h
    · cases h
    · rename_i bound rest' hbound
      obtain ⟨rfl, rfl⟩ := Prod.mk.inj (Except.ok.inj h)
      exact .inl ⟨false, ls', bound, rfl, hbound, rfl⟩
  · obtain ⟨rfl, rfl⟩ := Prod.mk.inj (Except.ok.inj h)
    exact .inr (.inl ⟨rfl, rfl⟩)
  · rename_i fuel' hfuel _ _ _
    obtain rfl := Nat.succ.inj hfuel
    split at h
    · cases h
    · rename_i n offset ls₂ hname
      split at h
      · cases h
      · rename_i args offset' ls₄ hargs
        exact .inr (.inr (.inr ⟨n, _, ls₂, _, ls₄, args, hname, rfl, hargs, rfl, h⟩))
      · cases h
    · rename_i n ls' _ hname
      exact .inr (.inr (.inl ⟨n, ls', hname, h⟩))

/-- How type arguments can have been read. -/
theorem arguments_eq_ok {stop fuel : Nat} {ls rest : List Lexeme} {ts : List TypeRef}
    (h : arguments stop (fuel + 1) ls = .ok (ts, rest)) :
    ∃ t ls', type stop fuel ls = .ok (t, ls') ∧
      ((∃ ls'' ts', tokensOf ls' = .comma :: tokensOf ls'' ∧
        arguments stop fuel ls'' = .ok (ts', rest) ∧ ts = t :: ts') ∨ (ls' = rest ∧ ts = [t])) := by
  unfold arguments at h
  split at h
  · cases h
  · rename_i t offset ls' ht
    split at h
    · cases h
    · rename_i ts' rest' hts
      obtain ⟨rfl, rfl⟩ := Prod.mk.inj (Except.ok.inj h)
      exact ⟨t, _, ht, .inl ⟨ls', ts', rfl, hts, rfl⟩⟩
  · rename_i t ls' _ ht
    obtain ⟨rfl, rfl⟩ := Prod.mk.inj (Except.ok.inj h)
    exact ⟨t, ls', ht, .inr ⟨rfl, rfl⟩⟩

/-- A type that is read is derived, and so are type arguments, of which there is at least one. -/
theorem exists_of_type_eq_ok (stop fuel : Nat) :
    (∀ {ls rest : List Lexeme} {t : TypeRef}, type stop fuel ls = .ok (t, rest) →
      ∃ d : Derivation, d.typeRef = t ∧ tokensOf ls = d.tokens ++ tokensOf rest) ∧
    (∀ {ls rest : List Lexeme} {ts : List TypeRef}, arguments stop fuel ls = .ok (ts, rest) →
      ∃ d : Derivation, ∃ ds, (d :: ds).map Derivation.typeRef = ts ∧
        tokensOf ls = separated ((d :: ds).map Derivation.tokens) ++ tokensOf rest) := by
  induction fuel with
  | zero =>
    constructor
    · intro ls rest t h
      unfold type at h
      cases h
    · intro ls rest ts h
      unfold arguments at h
      cases h
  | succ fuel ih =>
    constructor
    · intro ls rest t h
      obtain ⟨isUpper, ls', bound, htokens, hbound, rfl⟩ | ⟨htokens, rfl⟩ | ⟨n, ls', hname, hbrackets⟩ |
        ⟨n, ls₁, ls₂, ls₃, ls₄, args, hname, hless, hargs, hgreater, hbrackets⟩ := type_eq_ok h
      · obtain ⟨d, rfl, hd⟩ := ih.1 hbound
        exact ⟨.bounded isUpper d, rfl, by rw [htokens, hd]; rfl⟩
      · exact ⟨.wildcard, rfl, htokens⟩
      · obtain ⟨name, rfl, hn⟩ := exists_of_name_eq_ok hname
        rw [name.named_text] at hbrackets
        have helement := name.isElement_applied []
        obtain ⟨m, ht, hm⟩ := exists_of_brackets_eq_ok helement 0 hbrackets
        refine ⟨.named name [] m, by simpa [Derivation.typeRef] using ht, ?_⟩
        simp [hn, hm, Derivation.tokens, angled]
      · obtain ⟨name, rfl, hn⟩ := exists_of_name_eq_ok hname
        obtain ⟨d, ds, rfl, hds⟩ := ih.2 hargs
        rw [name.named_text] at hbrackets
        have helement := name.isElement_applied ((d :: ds).map Derivation.typeRef)
        obtain ⟨m, ht, hm⟩ := exists_of_brackets_eq_ok helement 0 hbrackets
        refine ⟨.named name (d :: ds) m, by simpa [Derivation.typeRef] using ht, ?_⟩
        rw [hn, hless, hds, hgreater, hm]
        simp [Derivation.tokens, angled]
    · intro ls rest ts h
      obtain ⟨t, ls', ht, ⟨ls'', ts', hcomma, hts, rfl⟩ | ⟨rfl, rfl⟩⟩ := arguments_eq_ok h
      · obtain ⟨d, rfl, hd⟩ := ih.1 ht
        obtain ⟨e, ds, rfl, hds⟩ := ih.2 hts
        refine ⟨d, e :: ds, rfl, ?_⟩
        rw [hd, hcomma, hds]
        simp [separated, List.intercalate_cons_cons]
      · obtain ⟨d, rfl, hd⟩ := ih.1 ht
        exact ⟨d, [], rfl, by simpa [separated] using hd⟩

/-! ### What is derived is read -/

theorem exists_of_tokensOf_eq_cons {ls : List Lexeme} {t : Token} {ts : List Token}
    (h : tokensOf ls = t :: ts) : ∃ offset ls', ls = ⟨offset, t⟩ :: ls' ∧ tokensOf ls' = ts := by
  obtain ⟨⟨offset, token⟩, ls', rfl, rfl, rfl⟩ := List.map_eq_cons_iff.1 h
  exact ⟨offset, ls', rfl, rfl⟩

theorem exists_of_tokensOf_eq_append {ls : List Lexeme} {ts us : List Token}
    (h : tokensOf ls = ts ++ us) :
    ∃ ls₁ ls₂, ls = ls₁ ++ ls₂ ∧ tokensOf ls₁ = ts ∧ tokensOf ls₂ = us :=
  List.map_eq_append_iff.1 h

theorem ne_of_head?_ne {ls ls' : List Lexeme} {t : Token} {offset : Nat}
    (h : (tokensOf ls).head? ≠ some t) : ls ≠ ⟨offset, t⟩ :: ls' := by
  rintro rfl
  exact h rfl

/-- A name is read where no dot follows. -/
theorem name_of_tokens {stop : Nat} {d : DottedName} {ls rest : List Lexeme}
    (h : tokensOf ls = d.tokens) (hrest : (tokensOf rest).head? ≠ some .dot) :
    name stop (ls ++ rest) = .ok (d.text, rest) := by
  obtain ⟨first, others⟩ := d
  induction others generalizing first ls with
  | nil =>
    obtain ⟨offset, ls', rfl, hls'⟩ := exists_of_tokensOf_eq_cons h
    obtain rfl : ls' = [] := List.map_eq_nil_iff.1 hls'
    have hdot : ∀ offset' rest', rest = ⟨offset', .dot⟩ :: rest' → False := fun _ _ =>
      ne_of_head?_ne hrest
    rw [List.cons_append, List.nil_append, name, if_neg (by simp [first.startsWithDigit_text])]
    · simp [DottedName.text]
    · exact hdot
  | cons second others ih =>
    rw [DottedName.tokens_cons] at h
    obtain ⟨offset, ls', rfl, hls'⟩ := exists_of_tokensOf_eq_cons h
    obtain ⟨offset', ls'', rfl, hls''⟩ := exists_of_tokensOf_eq_cons hls'
    rw [List.cons_append, List.cons_append, name, if_neg (by simp [first.startsWithDigit_text]),
      ih second hls'', DottedName.text_cons]

/-- Brackets are read where no other bracket opens. -/
theorem brackets_withDimensions {stop : Nat} {element : TypeRef} {m : Nat} {ls rest : List Lexeme}
    (helement : element.IsElement) (h : tokensOf ls = bracketTokens m)
    (hrest : (tokensOf rest).head? ≠ some .openBracket) (n : Nat) :
    brackets stop (element.withDimensions n) (ls ++ rest) =
      .ok (element.withDimensions (n + m), rest) := by
  induction m generalizing n ls with
  | zero =>
    obtain rfl : ls = [] := List.map_eq_nil_iff.1 h
    rw [List.nil_append, brackets]
    · rfl
    · exact fun _ _ _ => ne_of_head?_ne hrest
    · exact fun _ _ => ne_of_head?_ne hrest
  | succ m ih =>
    obtain ⟨offset, ls', rfl, hls'⟩ := exists_of_tokensOf_eq_cons h
    obtain ⟨offset', ls'', rfl, hls''⟩ := exists_of_tokensOf_eq_cons hls'
    rw [List.cons_append, List.cons_append, brackets, helement.arrayOf_withDimensions, ih hls'',
      Nat.add_assoc, Nat.add_comm 1 m]

theorem brackets_of_tokens {stop : Nat} {element : TypeRef} {m : Nat} {ls rest : List Lexeme}
    (helement : element.IsElement) (h : tokensOf ls = bracketTokens m)
    (hrest : (tokensOf rest).head? ≠ some .openBracket) :
    brackets stop element (ls ++ rest) = .ok (element.withDimensions m, rest) := by
  have hzero : brackets stop (element.withDimensions 0) (ls ++ rest) =
      .ok (element.withDimensions (0 + m), rest) := brackets_withDimensions helement h hrest 0
  rwa [Nat.zero_add] at hzero

/-- The parser reads the tree where something follows that can follow a type, with two units of
fuel for each token. -/
def Derivation.IsRead (d : Derivation) : Prop :=
  ∀ {stop fuel : Nat} {ls rest : List Lexeme}, tokensOf ls = d.tokens → Follows (tokensOf rest) →
    2 * d.tokens.length ≤ fuel → type stop fuel (ls ++ rest) = .ok (d.typeRef, rest)

/-- Type arguments are read up to the closing angle bracket. -/
theorem arguments_of_tokens {stop fuel offset : Nat} {d : Derivation} {ds : List Derivation}
    {ls rest : List Lexeme} (ih : ∀ c ∈ d :: ds, c.IsRead)
    (h : tokensOf ls = separated ((d :: ds).map Derivation.tokens))
    (hfuel : 2 * (separated ((d :: ds).map Derivation.tokens)).length < fuel) :
    arguments stop fuel (ls ++ ⟨offset, .greater⟩ :: rest) =
      .ok ((d :: ds).map Derivation.typeRef, ⟨offset, .greater⟩ :: rest) := by
  induction ds generalizing d fuel ls with
  | nil =>
    rw [List.map_cons, List.map_nil, separated_singleton] at h hfuel
    obtain ⟨fuel, rfl⟩ := Nat.exists_eq_succ_of_ne_zero (Nat.ne_zero_of_lt hfuel)
    have hd : type stop fuel (ls ++ ⟨offset, .greater⟩ :: rest) =
        .ok (d.typeRef, ⟨offset, .greater⟩ :: rest) :=
      ih d List.mem_cons_self h (follows_greater (tokensOf rest)) (by omega)
    rw [arguments, hd]
    rfl
  | cons e ds ihds =>
    rw [List.map_cons, List.map_cons, separated_cons_cons] at h hfuel
    rw [List.length_append, List.length_cons, ← List.map_cons] at hfuel
    obtain ⟨fuel, rfl⟩ := Nat.exists_eq_succ_of_ne_zero (Nat.ne_zero_of_lt hfuel)
    obtain ⟨ls₁, ls', rfl, hls₁, hls'⟩ := exists_of_tokensOf_eq_append h
    obtain ⟨offset', ls₂, rfl, hls₂⟩ := exists_of_tokensOf_eq_cons hls'
    have hd : type stop fuel (ls₁ ++ ⟨offset', .comma⟩ :: (ls₂ ++ ⟨offset, .greater⟩ :: rest)) =
        .ok (d.typeRef, ⟨offset', .comma⟩ :: (ls₂ ++ ⟨offset, .greater⟩ :: rest)) :=
      ih d List.mem_cons_self hls₁ (follows_comma (tokensOf _)) (by omega)
    have hds : arguments stop fuel (ls₂ ++ ⟨offset, .greater⟩ :: rest) =
        .ok ((e :: ds).map Derivation.typeRef, ⟨offset, .greater⟩ :: rest) :=
      ihds (fun c hc => ih c (List.mem_cons_of_mem d hc)) hls₂ (by omega)
    rw [List.append_assoc, List.cons_append, arguments, hd]
    simp only [hds]
    rfl

/-- No name begins with a question mark. -/
theorem ne_question_of_name_eq_ok {stop : Nat} {n : String} {ls rest : List Lexeme}
    (h : name stop ls = .ok (n, rest)) (offset : Nat) (ls' : List Lexeme) :
    ls = ⟨offset, .question⟩ :: ls' → False := by
  rintro rfl
  simp [name] at h

/-- A name that no angle bracket follows is the whole element of a type. -/
theorem type_of_name {stop fuel : Nat} {n : String} {ls rest : List Lexeme}
    (hname : name stop ls = .ok (n, rest)) (hrest : (tokensOf rest).head? ≠ some .less) :
    type stop (fuel + 1) ls = brackets stop (.named n) rest := by
  have hquestion := ne_question_of_name_eq_ok hname
  rw [type, hname]
  · cases rest with
    | nil => rfl
    | cons l rest =>
      obtain ⟨offset, token⟩ := l
      cases token with
      | less => exact absurd rfl hrest
      | _ => rfl
  · exact fun _ _ _ => hquestion _ _
  · exact fun _ _ _ => hquestion _ _
  · exact hquestion

/-- A name and type arguments are the element of a type. -/
theorem type_of_name_arguments {stop fuel offset offset' : Nat} {n : String} {args : List TypeRef}
    {ls ls' rest : List Lexeme} (hname : name stop ls = .ok (n, ⟨offset, .less⟩ :: ls'))
    (hargs : arguments stop fuel ls' = .ok (args, ⟨offset', .greater⟩ :: rest)) :
    type stop (fuel + 1) ls = brackets stop (.generic (.named n) args) rest := by
  have hquestion := ne_question_of_name_eq_ok hname
  rw [type, hname]
  · simp only [hargs]
  · exact fun _ _ _ => hquestion _ _
  · exact fun _ _ _ => hquestion _ _
  · exact hquestion

/-- **Every tree is read.** -/
theorem Derivation.isRead (d : Derivation) : d.IsRead := by
  induction d using Derivation.induct with
  | wildcard =>
    intro stop fuel ls rest h hrest hfuel
    obtain ⟨fuel, rfl⟩ := Nat.exists_eq_succ_of_ne_zero (Nat.ne_zero_of_lt hfuel)
    obtain ⟨offset, ls', rfl, hls'⟩ := exists_of_tokensOf_eq_cons h
    obtain rfl : ls' = [] := List.map_eq_nil_iff.1 hls'
    have hword : ∀ word offset' rest', rest = ⟨offset', .word word⟩ :: rest' → False :=
      fun word _ _ => ne_of_head?_ne (hrest.head?_ne (by simp) (by simp))
    rw [List.cons_append, List.nil_append, type]
    · rfl
    · exact hword "extends"
    · exact hword "super"
  | bounded isUpper bound ih =>
    intro stop fuel ls rest h hrest hfuel
    obtain ⟨fuel, rfl⟩ := Nat.exists_eq_succ_of_ne_zero (Nat.ne_zero_of_lt hfuel)
    obtain ⟨offset, ls', rfl, hls'⟩ := exists_of_tokensOf_eq_cons h
    obtain ⟨offset', ls'', rfl, hls''⟩ := exists_of_tokensOf_eq_cons hls'
    rw [tokens, List.length_cons, List.length_cons] at hfuel
    have hbound : type stop fuel (ls'' ++ rest) = .ok (bound.typeRef, rest) :=
      ih hls'' hrest (by omega)
    cases isUpper with
    | true => rw [List.cons_append, List.cons_append, keyword, type, hbound]; rfl
    | false => rw [List.cons_append, List.cons_append, keyword, type, hbound]; rfl
  | named name args dimensions ih =>
    intro stop fuel ls rest h hrest hfuel
    rw [tokens, tokensEach_eq_map, List.append_assoc] at h
    rw [tokens, tokensEach_eq_map, List.append_assoc, List.length_append, List.length_append] at hfuel
    obtain ⟨ls₁, ls', rfl, hls₁, hls'⟩ := exists_of_tokensOf_eq_append h
    obtain ⟨ls₂, ls₃, rfl, hls₂, hls₃⟩ := exists_of_tokensOf_eq_append hls'
    -- Each part ends where the next one, or what follows the type, begins.
    have hless : (tokensOf (ls₃ ++ rest)).head? ≠ some .less := by
      rw [tokensOf_append, hls₃]
      exact hrest.head?_bracketTokens_ne (by simp) (by simp) (by simp)
    have hdot : (tokensOf (ls₂ ++ (ls₃ ++ rest))).head? ≠ some .dot := by
      rw [tokensOf_append, tokensOf_append, hls₂, hls₃]
      exact head?_angled_ne (by simp) (hrest.head?_bracketTokens_ne (by simp) (by simp) (by simp))
    have hname : TypeText.name stop (ls₁ ++ (ls₂ ++ (ls₃ ++ rest))) =
        .ok (name.text, ls₂ ++ (ls₃ ++ rest)) := name_of_tokens hls₁ hdot
    have hbrackets : brackets stop (name.typeRef.applied (args.map typeRef)) (ls₃ ++ rest) =
        .ok ((name.typeRef.applied (args.map typeRef)).withDimensions dimensions, rest) :=
      brackets_of_tokens (name.isElement_applied _) hls₃ (hrest.head?_ne (by simp) (by simp))
    rw [List.append_assoc, List.append_assoc, typeRef, typeRefEach_eq_map]
    have hpos : 0 < name.tokens.length := Nat.succ_pos _
    obtain ⟨fuel, rfl⟩ : ∃ fuel', fuel = fuel' + 1 := ⟨fuel - 1, by omega⟩
    cases args with
    | nil =>
      obtain rfl : ls₂ = [] := List.map_eq_nil_iff.1 hls₂
      rw [type_of_name hname hless, name.named_text]
      exact hbrackets
    | cons arg args =>
      rw [List.map_cons, angled_cons] at hls₂ hfuel
      rw [List.length_cons, List.length_append] at hfuel
      obtain ⟨offset, ls₄, rfl, hls₄⟩ := exists_of_tokensOf_eq_cons hls₂
      obtain ⟨ls₅, ls₆, rfl, hls₅, hls₆⟩ := exists_of_tokensOf_eq_append hls₄
      obtain ⟨offset', ls₇, rfl, hls₇⟩ := exists_of_tokensOf_eq_cons hls₆
      obtain rfl : ls₇ = [] := List.map_eq_nil_iff.1 hls₇
      rw [List.cons_append, List.append_assoc, List.singleton_append] at hname ⊢
      rw [type_of_name_arguments hname (arguments_of_tokens ih hls₅ (by rw [List.map_cons]; omega)),
        name.named_text]
      exact hbrackets

/-! ### Texts -/

/-- A text is a type text if the parser reads all of its lexemes. -/
theorem ofText_eq_ok {text : String} {t : TypeRef} :
    TypeRef.ofText text = .ok t ↔
      type (utf8Length text.toList) (2 * (lexemes text).length + 2) (lexemes text) = .ok (t, []) := by
  unfold TypeRef.ofText parse
  split
  · rename_i e htype
    rw [htype]
    exact ⟨nofun, nofun⟩
  · rename_i t' htype
    rw [htype]
    change Except.ok t' = Except.ok t ↔ _
    simp
  · rename_i t' l rest htype
    rw [htype]
    exact ⟨nofun, by simp⟩

/-- What a text denotes is the type of a tree that the text spells. -/
theorem exists_of_ofText_eq_ok {text : String} {t : TypeRef} (h : TypeRef.ofText text = .ok t) :
    ∃ d : Derivation, d.Derives text ∧ d.typeRef = t := by
  obtain ⟨d, htype, htokens⟩ := (exists_of_type_eq_ok _ _).1 (ofText_eq_ok.1 h)
  rw [tokensOf_nil, List.append_nil] at htokens
  exact ⟨d, (spells_iff 0).2 htokens, htype⟩

/-- A text that spells a tree denotes its type. -/
theorem Derivation.Derives.ofText_eq_ok {d : Derivation} {text : String} (h : d.Derives text) :
    TypeRef.ofText text = .ok d.typeRef := by
  have htokens : tokensOf (lexemes text) = d.tokens := (spells_iff 0).1 h
  have hlength : d.tokens.length = (lexemes text).length := by
    rw [← htokens, tokensOf, List.length_map]
  have hread : type (utf8Length text.toList) (2 * (lexemes text).length + 2) (lexemes text ++ []) =
      .ok (d.typeRef, []) := d.isRead htokens follows_nil (by omega)
  rw [List.append_nil] at hread
  exact TypeText.ofText_eq_ok.2 hread

/-- **The type texts are those of the grammar, and each denotes the type of its one tree.**  A text is
accepted with a type exactly if it spells the tokens of a tree of that type, and it spells those of one
tree at most. -/
theorem ofText_eq_ok_iff_derives (text : String) :
    (∀ t, TypeRef.ofText text = .ok t ↔ ∃ d : Derivation, d.Derives text ∧ d.typeRef = t) ∧
      ∀ d e : Derivation, d.Derives text → e.Derives text → d = e := by
  refine ⟨fun t => ⟨exists_of_ofText_eq_ok, ?_⟩, fun d e hd he => ?_⟩
  · rintro ⟨d, hd, rfl⟩
    exact hd.ofText_eq_ok
  · have htokens : tokensOf (lexemes text) = d.tokens := (spells_iff 0).1 hd
    have htokens' : tokensOf (lexemes text) = e.tokens := (spells_iff 0).1 he
    have hsame : d.tokens ++ [] = e.tokens ++ [] := by rw [← htokens, htokens']
    exact (d.isDetermined follows_nil follows_nil hsame).1

/-- The bound of a wildcard takes all that follows it, brackets included. -/
example : (TypeRef.ofText " ?extends a.B<int> [ ][]").toOption =
    some (.wildcard (some (.array (.generic (.id "a.B") [.raw "int"]) 2)) true) := by
  decide +kernel

end TypeText
end GroovyNew
