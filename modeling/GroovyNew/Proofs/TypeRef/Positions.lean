/-
# Where a type text is read

The walk over the bytes of a type text and the parser of its lexemes read the same, and the walk stays in
the text (`walk_stays_in_text`).  Nothing has to be known of the one but where its cursor stands, and
nothing of the other but which lexemes are left: `Walk.Agrees` relates the two, and each part of the walk
agrees with the part of the parser that reads the same.

| | walk and parser agree |
| --- | --- |
| a word | `Walk.agrees_identifier` |
| names | `Walk.agrees_name` |
| brackets | `Walk.agrees_brackets` |
| types and type arguments | `Walk.typesAgree_and_argumentsAgree` |
| texts | `Walk.agrees_whole` |

Both are greedy in the same way: a walk finds a token behind blanks exactly if the next lexeme is that
token, since no word stops in front of an identifier character.
-/

import GroovyNew.Proofs.TypeRef.CursorMoves

namespace GroovyNew
namespace TypeText

/-! ### Agreement -/

namespace Walk

/-- The walk over the text from the cursor agrees with what is read off lexemes: it yields the same value
and stands in front of the lexemes that are left, or it stops at the same problem, where it stands. -/
def Agrees {α : Type} (w : Walk α) (text : List Char) (c : Cursor) : Parsed α → Prop
  | .ok (a, ls) => ∃ c', runFrom w text c = (.ok a, c') ∧ c'.Sees text ls ∧ c.Reaches c'
  | .error f => ∃ c', runFrom w text c = (.error (.fault f), c') ∧ c'.Sound text ∧ c'.position = f.offset

variable {α β : Type} {text : List Char} {c c' : Cursor} {ls : List Lexeme}

theorem agrees_pure (h : c.Sees text ls) (a : α) : Agrees (pure a) text c (.ok (a, ls)) :=
  ⟨c, rfl, h, .refl c⟩

theorem agrees_fail (h : c.Sound text) {problem : Problem} {offset : Nat} (hoffset : c.position = offset) :
    Agrees (fail problem : Walk α) text c (.error ⟨problem, offset⟩) :=
  ⟨c, by rw [runFrom_fail, hoffset], h, hoffset⟩

/-- A walk agrees if it goes on as one that agrees from a cursor farther on. -/
theorem Agrees.of_runFrom {w v : Walk α} {p : Parsed α} (h : Agrees v text c' p) (hreaches : c.Reaches c')
    (hrun : runFrom w text c = runFrom v text c') : Agrees w text c p := by
  cases p with
  | error f =>
    obtain ⟨c'', hv, hsound, hoffset⟩ := h
    exact ⟨c'', hrun.trans hv, hsound, hoffset⟩
  | ok r =>
    obtain ⟨c'', hv, hsees, hreaches'⟩ := h
    exact ⟨c'', hrun.trans hv, hsees, hreaches.trans hreaches'⟩

theorem Agrees.bind {w : Walk α} {f : α → Walk β} {p : Parsed α} {g : α → List Lexeme → Parsed β}
    (h : Agrees w text c p)
    (hf : ∀ {a ls c'}, p = .ok (a, ls) → c'.Sees text ls → c.Reaches c' → Agrees (f a) text c' (g a ls)) :
    Agrees (w >>= f) text c (p.andThen g) := by
  cases p with
  | error e =>
    obtain ⟨c', hw, hsound, hoffset⟩ := h
    exact ⟨c', by rw [runFrom_bind, hw], hsound, hoffset⟩
  | ok r =>
    obtain ⟨a, ls⟩ := r
    obtain ⟨c', hw, hsees, hreaches⟩ := h
    exact (hf rfl hsees hreaches).of_runFrom hreaches (runFrom_bind_ok hw f)

theorem agrees_eat {w : Walk Bool} {t : Token} {f g : Walk α} {p : Parsed α} (h : Eats w t)
    (hc : c.Sees text ls)
    (htaken : ∀ {ls' c'}, after? t ls = some ls' → c.Passes text c' ls' → Agrees f text c' p)
    (hleft : ∀ {c'}, after? t ls = none → c.Waits text c' ls → Agrees g text c' p) :
    Agrees (do if ← w then f else g) text c p := by
  cases hafter : after? t ls with
  | some ls' =>
    obtain ⟨c', hw, hpasses⟩ := h.taken hc hafter
    exact (htaken hafter hpasses).of_runFrom hpasses.reaches (runFrom_bind_ok hw _)
  | none =>
    obtain ⟨c', hw, hwaits⟩ := h.left hc hafter
    exact (hleft hafter hwaits).of_runFrom hwaits.reaches (runFrom_bind_ok hw _)

theorem agrees_inside {w : Walk α} {p : Parsed α} {start : Nat} (h : c.Inside text start ls)
    (hw : ∀ {c'}, c'.Sees text ls → Agrees w text c' p) : Agrees (inside start w) text c p :=
  (hw h.nest).of_runFrom ⟨List.Subset.refl _, Nat.le_refl _⟩ (runFrom_inside start w)

end Walk

/-! ### Words and names -/

/-- A word in front of a text that it ends at is all of the identifier characters there. -/
theorem takeWhile_word {word : String} {rest : List Char} (hproper : (Token.word word).IsProper)
    (hends : (Token.word word).EndsBefore rest) :
    (word.toList ++ rest).takeWhile Text.isWordChar = word.toList := by
  rw [List.takeWhile_append_of_pos hproper.2]
  cases rest with
  | nil => rw [List.takeWhile_nil, List.append_nil]
  | cons c rest =>
    have hc : Text.isWordChar c = false := hends
    rw [List.takeWhile_cons_of_neg (by simp [hc]), List.append_nil]

/-- A text that begins with no blank begins with a word or with no identifier character. -/
theorem begins_with_word_or {after : List Char} (h : ∀ d ∈ after.head?, Text.isBlank d = false) :
    (∃ (word : String) (rest : List Char), after = word.toList ++ rest ∧ (Token.word word).IsProper ∧
      (Token.word word).EndsBefore rest) ∨
    (after.takeWhile Text.isWordChar = [] ∧ ∀ stop offset, firstWord stop (scan offset after) =
      .error ⟨.expectedIdentifier, position stop (scan offset after)⟩) := by
  rcases after with _ | ⟨d, ds⟩
  · refine .inr ⟨rfl, fun stop offset => ?_⟩
    rw [scan_nil]
    rfl
  obtain ⟨t, rest, htext, hproper, hends⟩ := exists_token (h d rfl)
  rw [htext]
  have hscan := scan_token hproper hends
  cases t with
  | word word => exact .inl ⟨word, rest, rfl, hproper, hends⟩
  | stray c =>
    refine .inr ⟨List.takeWhile_cons_of_neg (by simp [hproper.2.1]), fun stop offset => ?_⟩
    rw [hscan]
    rfl
  | _ =>
    refine .inr ⟨List.takeWhile_cons_of_neg (by decide), fun stop offset => ?_⟩
    rw [hscan]
    rfl

namespace Walk

variable {text : List Char} {c : Cursor} {ls : List Lexeme}

/-- A word is read where one comes next, unless it starts with a digit. -/
theorem agrees_identifier (h : c.Sees text ls) :
    Agrees identifier text c (firstWord (utf8Length text) ls) := by
  obtain ⟨c', after, hskip, hskips, rfl⟩ := exists_runFrom_skipBlanks h
  have hsound : c'.Sound text := hskips.on.toSound
  obtain ⟨word, rest, rfl, hproper, hends⟩ | ⟨hnone, hfirst⟩ := begins_with_word_or hskips.head
  · have hon : c'.On text (word.toList ++ rest) := hskips.on
    have hpasses := hskips.passes hproper
    have hlength : ¬ utf8Length word.toList = 0 := Nat.ne_of_gt hproper.utf8Length_pos
    have hrun : runFrom identifier text c =
        if startsWithDigit word then (.error (.fault ⟨.leadingDigit, c'.position⟩), c')
        else (.ok word, c'.moveTo (c'.position + utf8Length word.toList)) := by
      rw [identifier, runFrom_bind_ok hskip, runFrom_bind_ok (runFrom_rest hon), takeWhile_word hproper hends]
      simp only [if_neg hlength, runFrom_bind_ok (runFrom_rest hon), runFrom_bind_ok (runFrom_cut _ _),
        String.ofList_toList]
      split <;> rfl
    rw [scan_word hproper hends, firstWord]
    by_cases hdigit : startsWithDigit word
    · rw [if_pos hdigit] at hrun ⊢
      exact ⟨c', hrun, hsound, rfl⟩
    · rw [if_neg hdigit] at hrun ⊢
      exact ⟨_, hrun, hpasses.sees, hpasses.reaches⟩
  · have hposition := hskips.waits.position_eq
    rw [hfirst, ← hposition]
    refine ⟨c', ?_, hsound, rfl⟩
    rw [identifier, runFrom_bind_ok hskip, runFrom_bind_ok (runFrom_rest hskips.on), hnone]
    rfl

theorem agrees_name {fuel : Nat} (h : c.Sees text ls) (hfuel : ls.length < fuel) :
    Agrees (name fuel) text c (TypeText.name (utf8Length text) ls) := by
  induction fuel generalizing c ls with
  | zero => omega
  | succ fuel ih =>
    rw [name_eq]
    refine (agrees_identifier h).bind fun {w ls₁ c₁} hw h₁ _ => ?_
    have hlength : ls₁.length < ls.length := length_lt_of_firstWord hw
    refine .of_runFrom ?_ (.refl c₁) (runFrom_bind_ok runFrom_position _)
    have hdot : Eats (eat ".") .dot := eats_eat .dot rfl trivial fun _ => trivial
    cases hafter : after? .dot ls₁ with
    | some ls₂ =>
      obtain ⟨c₂, heat, hpasses⟩ := hdot.taken h₁ hafter
      have hless := length_eq_of_after? hafter
      have hname := ih hpasses.sees (by omega)
      exact (hname.bind fun _ hsees _ => agrees_pure hsees _).of_runFrom hpasses.reaches (runFrom_bind_ok heat _)
    | none =>
      -- The cursor goes back over the blanks, so this is no case of `agrees_eat`.
      obtain ⟨c₂, heat, hwaits⟩ := hdot.left h₁ hafter
      refine ⟨c₂.moveTo c₁.position, runFrom_bind_ok heat _, hwaits.back, ?_, Nat.le_refl _⟩
      exact List.Subset.trans hwaits.reaches.positions (List.subset_cons_self _ _)

theorem agrees_brackets {fuel : Nat} (h : c.Sees text ls) (hfuel : ls.length < fuel) (t : TypeRef) :
    Agrees (brackets fuel t) text c (TypeText.brackets (utf8Length text) t ls) := by
  induction fuel generalizing c ls t with
  | zero => omega
  | succ fuel ih =>
    rw [brackets_eq]
    refine agrees_eat (eats_eat .openBracket rfl trivial fun _ => trivial) h
      (fun {ls₁ c₁} hopen h₁ => ?_) (fun hopen h₁ => ?_)
    · simp only [hopen]
      refine agrees_eat (eats_eat .closeBracket rfl trivial fun _ => trivial) h₁.sees
        (fun {ls₂ c₂} hclose h₂ => ?_) (fun hclose h₂ => ?_)
      · simp only [hclose]
        have hless := length_eq_of_after? hopen
        have hless' := length_eq_of_after? hclose
        exact ih h₂.sees (by omega) _
      · simp only [hclose]
        exact agrees_fail h₂.sees.sound h₂.position_eq
    · simp only [hopen]
      exact agrees_pure h₁.sees t

end Walk

/-! ### Types -/

theorem isProper_keyword (isUpper : Bool) : (Token.word (keyword isUpper)).IsProper := by
  have hne : (keyword isUpper).toList ≠ [] := by cases isUpper <;> decide
  have hall : (keyword isUpper).toList.all Text.isWordChar = true := by
    cases isUpper <;> decide +kernel
  exact ⟨hne, List.all_eq_true.1 hall⟩

namespace Walk

/-- The walk over a type agrees with the parser where both have fuel for the lexemes ahead. -/
def TypesAgree (text : List Char) (fuel : Nat) : Prop :=
  ∀ {fuel' : Nat} {c : Cursor} {ls : List Lexeme}, c.Sees text ls → 2 * ls.length + 2 ≤ fuel →
    2 * ls.length + 2 ≤ fuel' → Agrees (type fuel) text c (TypeText.type (utf8Length text) fuel' ls)

/-- The walk over type arguments agrees with the parser where both have fuel for the lexemes ahead. -/
def ArgumentsAgree (text : List Char) (fuel : Nat) : Prop :=
  ∀ {fuel' start : Nat} {c : Cursor} {ls : List Lexeme}, c.Inside text start ls →
    2 * ls.length + 3 ≤ fuel → 2 * ls.length + 3 ≤ fuel' →
    Agrees (arguments fuel start) text c (TypeText.arguments (utf8Length text) fuel' ls)

variable {text : List Char} {fuel fuel' : Nat} {c c₁ : Cursor} {ls : List Lexeme}

/-- Behind a keyword, which is behind a question mark, the bound is read. -/
theorem TypesAgree.bound (htypes : TypesAgree text fuel) {isUpper : Bool} {o : Nat} {c₂ : Cursor}
    {ls₂ : List Lexeme} (h : c.Passes text c₁ ls) (hkeyword : after? (.word (keyword isUpper)) ls = some ls₂)
    (h₂ : c₂.Sees text ls₂) (hreaches : c₁.Reaches c₂) (hfuel : 2 * ls.length ≤ fuel)
    (hfuel' : 2 * ls.length ≤ fuel') :
    Agrees (do return .wildcard (some (← inside c.position (type fuel))) isUpper) text c₂
      (TypeText.type (utf8Length text) (fuel' + 1) (⟨o, .question⟩ :: ls)) := by
  have hlength := length_eq_of_after? hkeyword
  obtain ⟨o', rfl⟩ := after?_eq_some_iff.1 hkeyword
  have hinside := (h.inside (.refl c)).mono h₂ hreaches
  rw [type_bounded]
  exact (agrees_inside hinside fun hsees => htypes hsees (by omega) (by omega)).bind
    fun _ hsees _ => agrees_pure hsees _

/-- Behind a question mark, a bound is read where a keyword comes next. -/
theorem TypesAgree.question (htypes : TypesAgree text fuel) {o : Nat} (h : c.Passes text c₁ ls)
    (hfuel : 2 * ls.length ≤ fuel) (hfuel' : 2 * ls.length ≤ fuel') :
    Agrees (do
      if ← eatKeyword "extends" then return .wildcard (some (← inside c.position (type fuel))) true
      else if ← eatKeyword "super" then return .wildcard (some (← inside c.position (type fuel))) false
      else return .wildcard none true) text c₁
      (TypeText.type (utf8Length text) (fuel' + 1) (⟨o, .question⟩ :: ls)) := by
  refine agrees_eat (eats_eatKeyword (isProper_keyword true)) h.sees
    (fun hkeyword h₂ => htypes.bound h hkeyword h₂.sees h₂.reaches hfuel hfuel') (fun hextends h₂ => ?_)
  refine agrees_eat (eats_eatKeyword (isProper_keyword false)) h₂.sees
    (fun hkeyword h₃ => htypes.bound h hkeyword h₃.sees (h₂.reaches.trans h₃.reaches) hfuel hfuel')
    (fun hsuper h₃ => ?_)
  rw [type_unbounded (Bool.forall_bool.2 ⟨hsuper, hextends⟩)]
  exact agrees_pure h₃.sees _

/-- A name is read with the type arguments behind it, and the brackets behind those. -/
theorem ArgumentsAgree.named (harguments : ArgumentsAgree text fuel) (h : c.Waits text c₁ ls)
    (hfuel : 2 * ls.length + 1 ≤ fuel) (hfuel' : 2 * ls.length + 1 ≤ fuel') :
    Agrees (do
      let n ← name fuel
      if ← eat "<" then
        let args ← arguments fuel c.position
        if ← eat ">" then brackets fuel (.generic (.named n) args) else fail .expectedGreater
      else brackets fuel (.named n)) text c₁
      ((TypeText.name (utf8Length text) ls).andThen fun n ls₁ => match after? .less ls₁ with
        | some ls₂ => (TypeText.arguments (utf8Length text) fuel' ls₂).andThen fun args ls₃ =>
          match after? .greater ls₃ with
          | some ls₄ => TypeText.brackets (utf8Length text) (.generic (.named n) args) ls₄
          | none => .error ⟨.expectedGreater, TypeText.position (utf8Length text) ls₃⟩
        | none => TypeText.brackets (utf8Length text) (.named n) ls₁) := by
  refine (agrees_name h.sees (by omega)).bind fun {n ls₂ c₂} hname h₂ hreaches => ?_
  have hle := length_le_of_name hname
  refine agrees_eat (eats_eat .less rfl trivial fun _ => trivial) h₂
    (fun {ls₃ c₃} hless h₃ => ?_) (fun hless h₃ => ?_)
  · simp only [hless]
    have hlength := length_eq_of_after? hless
    have hinside := h₃.inside (h.reaches.trans hreaches)
    refine (harguments hinside (by omega) (by omega)).bind fun {args ls₄ c₄} hargs h₄ _ => ?_
    have hle' := length_le_of_arguments hargs
    refine agrees_eat (eats_eat .greater rfl trivial fun _ => trivial) h₄
      (fun hgreater h₅ => ?_) (fun hgreater h₅ => ?_)
    · simp only [hgreater]
      have hlength' := length_eq_of_after? hgreater
      exact agrees_brackets h₅.sees (by omega) _
    · simp only [hgreater]
      exact agrees_fail h₅.sees.sound h₅.position_eq
  · simp only [hless]
    exact agrees_brackets h₃.sees (by omega) _

theorem typesAgree_succ (htypes : TypesAgree text fuel) (harguments : ArgumentsAgree text fuel) :
    TypesAgree text (fuel + 1) := by
  intro fuel' c ls h hfuel hfuel'
  obtain ⟨fuel', rfl⟩ : ∃ n, fuel' = n + 1 := ⟨fuel' - 1, by omega⟩
  refine .of_runFrom ?_ (.refl c) (runFrom_bind_ok runFrom_position _)
  refine agrees_eat (eats_eat .question rfl trivial fun _ => trivial) h
    (fun {ls₁ c₁} hquestion h₁ => ?_) (fun hquestion h₁ => ?_)
  · have hlength := length_eq_of_after? hquestion
    obtain ⟨o, rfl⟩ := after?_eq_some_iff.1 hquestion
    exact htypes.question h₁ (by omega) (by omega)
  · rw [type_of_ne_question hquestion]
    exact harguments.named h₁ (by omega) (by omega)

theorem argumentsAgree_succ (htypes : TypesAgree text fuel) (harguments : ArgumentsAgree text fuel) :
    ArgumentsAgree text (fuel + 1) := by
  intro fuel' start c ls h hfuel hfuel'
  obtain ⟨fuel', rfl⟩ : ∃ n, fuel' = n + 1 := ⟨fuel' - 1, by omega⟩
  rw [arguments_eq]
  have htype : Agrees (inside start (type fuel)) text c (TypeText.type (utf8Length text) fuel' ls) :=
    agrees_inside h fun hsees => htypes hsees (by omega) (by omega)
  refine htype.bind fun {t ls₁ c₁} ht h₁ hreaches => ?_
  have hle := length_le_of_type ht
  refine agrees_eat (eats_eat .comma rfl trivial fun _ => trivial) h₁
    (fun {ls₂ c₂} hcomma h₂ => ?_) (fun hcomma h₂ => ?_)
  · simp only [hcomma]
    have hlength := length_eq_of_after? hcomma
    have hinside := h.mono h₂.sees (hreaches.trans h₂.reaches)
    exact (harguments hinside (by omega) (by omega)).bind fun _ hsees _ => agrees_pure hsees _
  · simp only [hcomma]
    exact agrees_pure h₂.sees _

/-- **The walk over types and type arguments agrees with the parser**, by induction on its fuel.  Two
units last for a lexeme: it takes one to come to a type and one to come to its arguments. -/
theorem typesAgree_and_argumentsAgree (text : List Char) (fuel : Nat) :
    TypesAgree text fuel ∧ ArgumentsAgree text fuel := by
  induction fuel with
  | zero => exact ⟨fun _ _ _ => by omega, fun _ _ _ => by omega⟩
  | succ fuel ih => exact ⟨typesAgree_succ ih.1 ih.2, argumentsAgree_succ ih.1 ih.2⟩

end Walk

/-! ### Texts -/

namespace Walk

variable {text : List Char} {c : Cursor} {ls : List Lexeme}

/-- The end of the text is found where no lexeme is left. -/
theorem agrees_filling (h : c.Sees text ls) (t : TypeRef) :
    Agrees (do
      skipBlanks
      if utf8Length (← read) ≤ (← position) then return t else fail .trailingInput) text c
      (filling t ls) := by
  obtain ⟨c', after, hskip, hskips, rfl⟩ := exists_runFrom_skipBlanks h
  have hposition := hskips.waits.position_eq
  have hend := hskips.scan_eq_nil_iff
  refine .of_runFrom ?_ hskips.reaches (runFrom_bind_ok hskip _)
  refine .of_runFrom ?_ (.refl c') (runFrom_bind_ok runFrom_read _)
  refine .of_runFrom ?_ (.refl c') (runFrom_bind_ok runFrom_position _)
  cases hls : scan c'.position after with
  | nil =>
    rw [if_pos (hend.1 hls)]
    exact agrees_pure ⟨after, hskips.on, hls⟩ t
  | cons l ls =>
    rw [hls] at hposition hend
    rw [if_neg (mt hend.2 (List.cons_ne_nil l ls))]
    exact agrees_fail hskips.on.toSound hposition

theorem agrees_whole {fuel fuel' : Nat} (h : c.Sees text ls) (hfuel : 2 * ls.length + 2 ≤ fuel)
    (hfuel' : 2 * ls.length + 2 ≤ fuel') :
    Agrees (whole fuel) text c ((TypeText.type (utf8Length text) fuel' ls).andThen filling) :=
  ((typesAgree_and_argumentsAgree text fuel).1 h hfuel hfuel').bind fun _ hsees _ =>
    agrees_filling hsees _

end Walk

theorem Cursor.sees_start (text : List Char) : Cursor.Sees text {} (scan 0 text) :=
  ⟨text, { journey := .start, nested := nofun, ahead := ⟨[], rfl, rfl⟩ }, rfl⟩

/-- The walk over a text ends as the parser does, with a sound cursor, which stands at the fault if there
is one. -/
theorem exists_walk_eq (text : String) :
    ∃ c, walk text = ((parse text).mapError .fault, c) ∧ c.Sound text.toList ∧
      ∀ fault, parse text = .error fault → c.position = fault.offset := by
  have hlength : (lexemes text).length ≤ text.utf8ByteSize := by
    rw [← utf8Length_toList]
    exact length_scan_le 0 text.toList
  have hwhole := Walk.agrees_whole (Cursor.sees_start text.toList)
    (Nat.add_le_add_right (Nat.mul_le_mul_left 2 hlength) 2) (Nat.le_refl _)
  rw [parse_eq]
  unfold walk lexemes
  revert hwhole
  cases (type (utf8Length text.toList) (2 * (scan 0 text.toList).length + 2) (scan 0 text.toList)).andThen
    filling with
  | error f =>
    rintro ⟨c, hrun, hsound, hposition⟩
    refine ⟨c, hrun, hsound, fun fault hfault => ?_⟩
    cases hfault
    exact hposition
  | ok r =>
    rintro ⟨c, hrun, hsees, -⟩
    refine ⟨c, hrun, hsees.sound, fun fault hfault => ?_⟩
    cases hfault

/-- **A walk over a type text stays in the text.**  It yields what the parser yields, and so it neither
fails to cut the text nor uses up its fuel.  Each position that it takes is the length of some text in
front of a rest.  Where it goes back, from `earlier` to `later`, it had just come from there over blanks.
A type inside another one starts behind the start of that one, and each fault of a text is at a position
taken. -/
theorem walk_stays_in_text (text : String) :
    (walk text).1 = (parse text).mapError .fault ∧
    (∀ p ∈ (walk text).2.positions,
      ∃ before after : String, before ++ after = text ∧ before.utf8ByteSize = p) ∧
    (∀ l₁ l₂ later earlier, (walk text).2.positions = l₁ ++ later :: earlier :: l₂ → later < earlier →
      l₂.head? = some later ∧ OnlyBlanks text.toList later earlier) ∧
    (∀ e ∈ (walk text).2.nested,
      e.1 < e.2 ∧ e.1 ∈ (walk text).2.positions ∧ e.2 ∈ (walk text).2.positions) ∧
    ∀ error, TypeRef.ofText text = .error error →
      ∃ fault, error = .typeText fault text ∧ fault.offset ∈ (walk text).2.positions := by
  obtain ⟨c, hwalk, hsound, hfault⟩ := exists_walk_eq text
  rw [hwalk]
  refine ⟨rfl, fun p hp => ?_, fun _ _ _ _ => hsound.journey.undoes, hsound.nested, fun error herror => ?_⟩
  · obtain ⟨before, after, htext, rfl⟩ := hsound.journey.isBoundary p hp
    refine ⟨.ofList before, .ofList after, ?_, ?_⟩
    · rw [← String.ofList_append, htext, String.ofList_toList]
    · rw [← utf8Length_toList, String.toList_ofList]
  · unfold TypeRef.ofText at herror
    cases hparse : parse text with
    | ok t => rw [hparse] at herror; cases herror
    | error fault =>
      rw [hparse] at herror
      cases herror
      exact ⟨fault, rfl, hfault fault hparse ▸ c.position_mem⟩

/-- The cursor goes back from 3 to 2, over the blank behind the letter, which takes two bytes.  The type
argument starts at 4, and the closing bracket is missed at 6. -/
theorem walk_stays_in_text_unclosed :
    OnlyBlanks "é <x y".toList 2 3 ∧ (0, 4) ∈ (walk "é <x y").2.nested ∧
    4 ∈ (walk "é <x y").2.positions ∧
    ∃ fault, TypeRef.ofText "é <x y" = .error (.typeText fault "é <x y") ∧
      fault.offset ∈ (walk "é <x y").2.positions := by
  obtain ⟨-, -, hundoes, hnested, hfault⟩ := walk_stays_in_text "é <x y"
  have hback : (walk "é <x y").2.positions =
      [6, 6, 6, 6, 5, 6, 5, 4, 4, 4, 3] ++ 2 :: 3 :: [2, 0, 0, 0] := by
    decide +kernel
  have hinside : (0, 4) ∈ (walk "é <x y").2.nested := by decide +kernel
  have hrefused : (TypeRef.ofText "é <x y").toOption = none := by decide +kernel
  refine ⟨(hundoes _ _ 2 3 hback (by decide)).2, hinside, (hnested _ hinside).2.2, ?_⟩
  cases herror : TypeRef.ofText "é <x y" with
  | ok t =>
    rw [herror] at hrefused
    cases hrefused
  | error error =>
    obtain ⟨fault, rfl, hmem⟩ := hfault error herror
    exact ⟨fault, rfl, hmem⟩

end TypeText
end GroovyNew
