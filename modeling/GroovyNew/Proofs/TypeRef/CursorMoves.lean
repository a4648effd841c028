/-
# The moves of a cursor over a type text

A cursor is sound (`Cursor.Sound`) if it has come to each of its positions by a journey over the text and
each type inside another one started after it.  A journey stays on the boundaries of characters and leads
onward; it goes back only over blanks, to the position before it moved past them.

What stands at a cursor (`Cursor.On`) says what a walk does next.  For a walk that looks for a token the
lexemes ahead say enough (`Cursor.Sees`): it moves past blanks, and past the token if that is the next
lexeme (`Walk.Eats`).
-/

import GroovyNew.Proofs.TypeRef.ParserSteps
import GroovyNew.TypeRef.Cursor

namespace GroovyNew
namespace TypeText

/-! ### Places in a text -/

/-- The position is the length of a part of the text in front of the rest. -/
def IsBoundary (text : List Char) (p : Nat) : Prop :=
  ∃ before after, before ++ after = text ∧ utf8Length before = p

/-- Nothing but blanks stands between the two positions. -/
def OnlyBlanks (text : List Char) (p q : Nat) : Prop :=
  ∃ before blanks after, before ++ (blanks ++ after) = text ∧ utf8Length before = p ∧
    p + utf8Length blanks = q ∧ ∀ b ∈ blanks, Text.isBlank b = true

/-- The positions, the latest first, are those of a journey over the text that starts in front of it. -/
inductive Journey (text : List Char) : List Nat → Prop
  /-- The start. -/
  | start : Journey text [0]
  /-- A move onward, or none. -/
  | onward {p q : Nat} {ps : List Nat} (journey : Journey text (p :: ps)) (le : p ≤ q)
      (boundary : IsBoundary text q) : Journey text (q :: p :: ps)
  /-- A move back over the blanks that the last move went past. -/
  | back {p q : Nat} {ps : List Nat} (journey : Journey text (q :: p :: ps))
      (blanks : OnlyBlanks text p q) : Journey text (p :: q :: p :: ps)

theorem OnlyBlanks.isBoundary {text : List Char} {p q : Nat} (h : OnlyBlanks text p q) :
    IsBoundary text p := by
  obtain ⟨before, blanks, after, htext, hp, -, -⟩ := h
  exact ⟨before, blanks ++ after, htext, hp⟩

theorem Journey.isBoundary {text : List Char} {ps : List Nat} (h : Journey text ps) :
    ∀ p ∈ ps, IsBoundary text p := by
  induction h with
  | start =>
    intro p hp
    obtain rfl := List.mem_singleton.1 hp
    exact ⟨[], text, rfl, rfl⟩
  | onward journey le boundary ih => exact List.forall_mem_cons.2 ⟨boundary, ih⟩
  | back journey blanks ih => exact List.forall_mem_cons.2 ⟨blanks.isBoundary, ih⟩

/-- Where a journey goes back, it undoes a move past blanks. -/
theorem Journey.undoes {text : List Char} {ps : List Nat} (h : Journey text ps) :
    ∀ {l₁ l₂ : List Nat} {later earlier : Nat}, ps = l₁ ++ later :: earlier :: l₂ → later < earlier →
      l₂.head? = some later ∧ OnlyBlanks text later earlier := by
  induction h with
  | start =>
    intro l₁ l₂ later earlier heq hlt
    have hlength := congrArg List.length heq
    rw [List.length_singleton, List.length_append, List.length_cons, List.length_cons] at hlength
    omega
  | onward journey le boundary ih =>
    intro l₁ l₂ later earlier heq hlt
    cases l₁ with
    | nil =>
      obtain ⟨rfl, htail⟩ := List.cons.inj heq
      obtain ⟨rfl, -⟩ := List.cons.inj htail
      omega
    | cons p l₁ => exact ih (List.cons.inj heq).2 hlt
  | back journey blanks ih =>
    intro l₁ l₂ later earlier heq hlt
    cases l₁ with
    | nil =>
      obtain ⟨rfl, htail⟩ := List.cons.inj heq
      obtain ⟨rfl, rfl⟩ := List.cons.inj htail
      exact ⟨rfl, blanks⟩
    | cons p l₁ => exact ih (List.cons.inj heq).2 hlt

theorem cut?_zero (text : List Char) : cut? text 0 = some ([], text) := by
  cases text <;> rfl

/-- A text is cut at the length of what stands before. -/
theorem cut?_append (before after : List Char) :
    cut? (before ++ after) (utf8Length before) = some (before, after) := by
  induction before with
  | nil => exact cut?_zero after
  | cons c before ih =>
    have hpos : 0 < c.utf8Size := c.utf8Size_pos
    obtain ⟨n, hn⟩ : ∃ n, utf8Length (c :: before) = n + 1 :=
      ⟨utf8Length (c :: before) - 1, by rw [utf8Length_cons]; omega⟩
    have hrest : n + 1 - c.utf8Size = utf8Length before := by
      rw [← hn, utf8Length_cons, Nat.add_sub_cancel_left]
    have hle : c.utf8Size ≤ n + 1 := by rw [← hn, utf8Length_cons]; omega
    rw [List.cons_append, hn, cut?, if_pos hle, hrest, ih]
    rfl

/-! ### Sound cursors -/

namespace Cursor

/-- The cursor has made a journey over the text, and each type that was read inside another one starts
after it. -/
structure Sound (text : List Char) (c : Cursor) : Prop where
  journey : Journey text c.positions
  nested : ∀ e ∈ c.nested, e.1 < e.2 ∧ e.1 ∈ c.positions ∧ e.2 ∈ c.positions

/-- A sound cursor in front of the characters. -/
structure On (text : List Char) (c : Cursor) (after : List Char) : Prop extends c.Sound text where
  ahead : ∃ before, before ++ after = text ∧ utf8Length before = c.position

/-- A sound cursor in front of the lexemes. -/
def Sees (text : List Char) (c : Cursor) (ls : List Lexeme) : Prop :=
  ∃ after, c.On text after ∧ scan c.position after = ls

/-- The second cursor has been where the first one has been, and is not in front of it. -/
structure Reaches (c c' : Cursor) : Prop where
  positions : c.positions ⊆ c'.positions
  position : c.position ≤ c'.position

variable {text : List Char} {c c' c'' : Cursor} {after : List Char} {ls : List Lexeme}

theorem position_mem (c : Cursor) : c.position ∈ c.positions := List.mem_cons_self

theorem Sees.sound (h : c.Sees text ls) : c.Sound text := h.choose_spec.1.toSound

theorem Reaches.refl (c : Cursor) : c.Reaches c := ⟨List.Subset.refl _, Nat.le_refl _⟩

theorem Reaches.trans (h : c.Reaches c') (h' : c'.Reaches c'') : c.Reaches c'' :=
  ⟨List.Subset.trans h.positions h'.positions, Nat.le_trans h.position h'.position⟩

theorem reaches_moveTo {q : Nat} (h : c.position ≤ q) : c.Reaches (c.moveTo q) :=
  ⟨List.subset_cons_self _ _, h⟩

theorem Sound.moveTo {q : Nat} (h : c.Sound text) (hjourney : Journey text (q :: c.positions)) :
    (c.moveTo q).Sound text where
  journey := hjourney
  nested e he := by
    obtain ⟨hlt, hfirst, hsecond⟩ := h.nested e he
    exact ⟨hlt, List.mem_cons_of_mem q hfirst, List.mem_cons_of_mem q hsecond⟩

/-- A cursor moves past characters that stand at it. -/
theorem On.moveTo {taken : List Char} (h : c.On text (taken ++ after)) :
    (c.moveTo (c.position + utf8Length taken)).On text after := by
  obtain ⟨before, htext, hposition⟩ := h.ahead
  have htext' : before ++ taken ++ after = text := by rw [List.append_assoc, htext]
  have hposition' : utf8Length (before ++ taken) = c.position + utf8Length taken := by
    rw [utf8Length_append, hposition]
  exact
    { toSound := h.toSound.moveTo <|
        h.journey.onward (Nat.le_add_right _ _) ⟨before ++ taken, after, htext', hposition'⟩
      ahead := ⟨before ++ taken, htext', hposition'⟩ }

/-- A cursor moves back over blanks that it has just moved past. -/
theorem On.moveBack {blanks : List Char} (h : c.On text (blanks ++ after))
    (hblanks : ∀ b ∈ blanks, Text.isBlank b = true) :
    ((c.moveTo (c.position + utf8Length blanks)).moveTo c.position).On text (blanks ++ after) := by
  obtain ⟨before, htext, hposition⟩ := h.ahead
  have hback : OnlyBlanks text c.position (c.position + utf8Length blanks) :=
    ⟨before, blanks, after, htext, hposition, rfl, hblanks⟩
  exact
    { toSound := h.moveTo.toSound.moveTo (h.moveTo.journey.back hback)
      ahead := ⟨before, htext, hposition⟩ }

theorem On.length_eq (h : c.On text after) : utf8Length text = c.position + utf8Length after := by
  obtain ⟨before, rfl, hposition⟩ := h.ahead
  rw [utf8Length_append, hposition]

end Cursor

/-! ### Running a walk -/

namespace Walk

variable {α β : Type} {text : List Char} {c c' : Cursor}

@[simp] theorem runFrom_pure (a : α) : runFrom (pure a) text c = (.ok a, c) := rfl

@[simp] theorem runFrom_position : runFrom position text c = (.ok c.position, c) := rfl

@[simp] theorem runFrom_moveTo (p : Nat) : runFrom (moveTo p) text c = (.ok (), c.moveTo p) := rfl

@[simp] theorem runFrom_advance (bytes : Nat) :
    runFrom (advance bytes) text c = (.ok (), c.moveTo (c.position + bytes)) := rfl

@[simp] theorem runFrom_fail (problem : Problem) :
    runFrom (fail problem : Walk α) text c = (.error (.fault ⟨problem, c.position⟩), c) := rfl

theorem runFrom_inside (start : Nat) (w : Walk α) :
    runFrom (inside start w) text c = runFrom w text (c.nest start) := rfl

theorem runFrom_bind (w : Walk α) (f : α → Walk β) :
    runFrom (w >>= f) text c = match runFrom w text c with
      | (.ok a, c') => runFrom (f a) text c'
      | (.error e, c') => (.error e, c') := by
  unfold runFrom
  cases h : (w.run text).run.run c with
  | mk r c' =>
    simp only [ReaderT.run_bind, ExceptT.run_bind, StateT.run_bind, h]
    cases r <;> rfl

/-- A walk goes on with the value of the walk before it. -/
theorem runFrom_bind_ok {w : Walk α} {a : α} (h : runFrom w text c = (.ok a, c')) (f : α → Walk β) :
    runFrom (w >>= f) text c = runFrom (f a) text c' := by
  rw [runFrom_bind, h]

@[simp] theorem runFrom_read : runFrom read text c = (.ok text, c) := rfl

theorem runFrom_cut (before after : List Char) :
    runFrom (cut (before ++ after) (utf8Length before)) text c = (.ok (before, after), c) := by
  rw [cut, cut?_append]
  rfl

theorem runFrom_rest {after : List Char} (h : c.On text after) : runFrom rest text c = (.ok after, c) := by
  obtain ⟨before, rfl, hposition⟩ := h.ahead
  simp only [rest, runFrom_bind, runFrom_read, runFrom_position, ← hposition, runFrom_cut, runFrom_pure]

end Walk

/-! ### The next token -/

/-- A character that is no blank begins a token. -/
theorem exists_token {d : Char} {ds : List Char} (h : Text.isBlank d = false) :
    ∃ (t : Token) (rest : List Char), d :: ds = t.text ++ rest ∧ t.IsProper ∧ t.EndsBefore rest := by
  -- A text that is spelled begins with a blank or with a token.
  have hspells := spells_scan 0 (d :: ds)
  generalize tokensOf (scan 0 (d :: ds)) = tokens at hspells
  generalize hcs : d :: ds = cs at hspells
  cases hspells with
  | nil => cases hcs
  | blank hblank rest =>
    obtain ⟨rfl, -⟩ := List.cons.inj hcs
    rw [h] at hblank
    cases hblank
  | token proper ends rest => exact ⟨_, _, rfl, proper, ends⟩

/-- The lexemes of a text that begins with no blank: the first one is the token that the text begins
with. -/
theorem scan_eq_cons_iff {cs : List Char} {offset o : Nat} {t : Token} {ls : List Lexeme}
    (hcs : ∀ d ∈ cs.head?, Text.isBlank d = false) :
    scan offset cs = ⟨o, t⟩ :: ls ↔ offset = o ∧ ∃ rest, cs = t.text ++ rest ∧ t.IsProper ∧
      t.EndsBefore rest ∧ scan (offset + utf8Length t.text) rest = ls := by
  constructor
  · intro h
    cases cs with
    | nil => rw [scan_nil] at h; cases h
    | cons d ds =>
      obtain ⟨t', rest, htext, hproper, hends⟩ := exists_token (hcs d rfl)
      rw [htext, scan_token hproper hends] at h
      obtain ⟨hfirst, hrest⟩ := List.cons.inj h
      obtain ⟨rfl, rfl⟩ := Lexeme.mk.inj hfirst
      exact ⟨rfl, rest, htext, hproper, hends, hrest⟩
  · rintro ⟨rfl, rest, rfl, hproper, hends, rfl⟩
    exact scan_token hproper hends offset

/-- Blanks in front of a text hold no lexeme. -/
theorem scan_blanks {blanks : List Char} (h : ∀ b ∈ blanks, Text.isBlank b = true) (offset : Nat)
    (cs : List Char) : scan offset (blanks ++ cs) = scan (offset + utf8Length blanks) cs := by
  induction blanks generalizing offset with
  | nil => rfl
  | cons b blanks ih =>
    obtain ⟨hb, hblanks⟩ := List.forall_mem_cons.1 h
    rw [List.cons_append, scan_blank hb, ih hblanks, utf8Length_cons, Nat.add_assoc]

theorem length_scan_le (offset : Nat) (cs : List Char) : (scan offset cs).length ≤ utf8Length cs := by
  have hlength := (spells_scan offset cs).length_le
  rwa [tokensOf, List.length_map] at hlength

theorem exists_blanks (cs : List Char) : ∃ blanks after, cs = blanks ++ after ∧
    (∀ b ∈ blanks, Text.isBlank b = true) ∧ ∀ d ∈ after.head?, Text.isBlank d = false := by
  refine ⟨cs.takeWhile Text.isBlank, cs.dropWhile Text.isBlank,
    List.takeWhile_append_dropWhile.symm, List.all_eq_true.1 List.all_takeWhile, fun d hd => ?_⟩
  have hhead := List.head?_dropWhile_not Text.isBlank cs
  rw [Option.mem_def] at hd
  rwa [hd] at hhead

namespace Cursor

variable {text : List Char} {c c' : Cursor} {after : List Char} {ls ls' : List Lexeme}

/-- The second cursor is past the blanks at the first one, in front of `after`. -/
structure Skips (text : List Char) (c c' : Cursor) (after : List Char) : Prop where
  on : c'.On text after
  head : ∀ d ∈ after.head?, Text.isBlank d = false
  reaches : c.Reaches c'
  back : (c'.moveTo c.position).Sees text (scan c'.position after)

/-- The second cursor is past the blanks at the first one, in front of the next lexeme. -/
structure Waits (text : List Char) (c c' : Cursor) (ls : List Lexeme) : Prop where
  sees : c'.Sees text ls
  reaches : c.Reaches c'
  position_eq : c'.position = TypeText.position (utf8Length text) ls
  back : (c'.moveTo c.position).Sees text ls

/-- The second cursor is behind the next lexeme at the first one, in front of `ls`. -/
structure Passes (text : List Char) (c c' : Cursor) (ls : List Lexeme) : Prop where
  sees : c'.Sees text ls
  reaches : c.Reaches c'
  lt : c.position < c'.position

/-- The cursor is in front of the lexemes, inside a type that starts at `start`. -/
structure Inside (text : List Char) (start : Nat) (c : Cursor) (ls : List Lexeme) : Prop where
  sees : c.Sees text ls
  start_mem : start ∈ c.positions
  lt : start < c.position

theorem Skips.waits (h : Skips text c c' after) : Waits text c c' (scan c'.position after) where
  sees := ⟨after, h.on, rfl⟩
  reaches := h.reaches
  position_eq := by
    have hlength := h.on.length_eq
    cases after with
    | nil =>
      rw [scan_nil, TypeText.position, hlength]
      rfl
    | cons d ds =>
      obtain ⟨t, rest, htext, hproper, hends⟩ := exists_token (h.head d rfl)
      rw [htext, scan_token hproper hends, TypeText.position]
  back := h.back

/-- Past the blanks, no lexeme is left exactly at the end of the text. -/
theorem Skips.scan_eq_nil_iff (h : Skips text c c' after) :
    scan c'.position after = [] ↔ utf8Length text ≤ c'.position := by
  rw [h.on.length_eq]
  cases after with
  | nil => simp [scan_nil]
  | cons d ds =>
    obtain ⟨t, rest, htext, hproper, hends⟩ := exists_token (h.head d rfl)
    have hpos := hproper.utf8Length_pos
    rw [htext, scan_token hproper hends, utf8Length_append]
    exact ⟨nofun, fun hle => by omega⟩

theorem Skips.passes {t : Token} {rest : List Char} (h : Skips text c c' (t.text ++ rest))
    (hproper : t.IsProper) :
    Passes text c (c'.moveTo (c'.position + utf8Length t.text))
      (scan (c'.position + utf8Length t.text) rest) where
  sees := ⟨rest, h.on.moveTo, rfl⟩
  reaches := h.reaches.trans (reaches_moveTo (Nat.le_add_right _ _))
  lt := Nat.lt_of_le_of_lt h.reaches.position (Nat.lt_add_of_pos_right hproper.utf8Length_pos)

/-- Past a lexeme, a cursor is inside the type that started in front of it. -/
theorem Passes.inside {start : Cursor} (h : Passes text c c' ls) (hstart : start.Reaches c) :
    Inside text start.position c' ls where
  sees := h.sees
  start_mem := (hstart.trans h.reaches).positions start.position_mem
  lt := Nat.lt_of_le_of_lt hstart.position h.lt

theorem Inside.mono {start : Nat} (h : Inside text start c ls) (hsees : c'.Sees text ls')
    (hreaches : c.Reaches c') : Inside text start c' ls' where
  sees := hsees
  start_mem := hreaches.positions h.start_mem
  lt := Nat.lt_of_lt_of_le h.lt hreaches.position

theorem Inside.nest {start : Nat} (h : Inside text start c ls) : (c.nest start).Sees text ls := by
  obtain ⟨after, hon, hscan⟩ := h.sees
  refine ⟨after, { journey := hon.journey, nested := ?_, ahead := hon.ahead }, hscan⟩
  exact List.forall_mem_cons.2 ⟨⟨h.lt, h.start_mem, c.position_mem⟩, hon.nested⟩

end Cursor

namespace Walk

variable {text : List Char} {c c' : Cursor} {after : List Char} {ls ls' : List Lexeme}

theorem exists_runFrom_skipBlanks (h : c.Sees text ls) :
    ∃ c' after, runFrom skipBlanks text c = (.ok (), c') ∧ c.Skips text c' after ∧
      scan c'.position after = ls := by
  obtain ⟨cs, hon, rfl⟩ := h
  obtain ⟨blanks, after, rfl, hblanks, hhead⟩ := exists_blanks cs
  have hdrop : (blanks ++ after).dropWhile Text.isBlank = after := by
    rw [List.dropWhile_append_of_pos hblanks]
    cases after with
    | nil => rfl
    | cons d ds => rw [List.dropWhile_cons_of_neg (by simp [hhead d rfl])]
  have hmoved : utf8Length text - utf8Length after = c.position + utf8Length blanks := by
    rw [hon.length_eq, utf8Length_append, ← Nat.add_assoc, Nat.add_sub_cancel]
  refine ⟨c.moveTo (c.position + utf8Length blanks), after, ?_, ?_, (scan_blanks hblanks _ _).symm⟩
  · simp only [skipBlanks, runFrom_bind, runFrom_rest hon, hdrop, runFrom_read, hmoved, runFrom_moveTo]
  · exact
      { on := hon.moveTo
        head := hhead
        reaches := Cursor.reaches_moveTo (Nat.le_add_right _ _)
        back := ⟨blanks ++ after, hon.moveBack hblanks, scan_blanks hblanks _ _⟩ }

/-- The walk moves past blanks, and past the token if it comes next; it tells whether it does. -/
structure Eats (w : Walk Bool) (t : Token) : Prop where
  taken : ∀ {text : List Char} {c : Cursor} {ls ls' : List Lexeme}, c.Sees text ls →
    after? t ls = some ls' → ∃ c', runFrom w text c = (.ok true, c') ∧ c.Passes text c' ls'
  left : ∀ {text : List Char} {c : Cursor} {ls : List Lexeme}, c.Sees text ls →
    after? t ls = none → ∃ c', runFrom w text c = (.ok false, c') ∧ c.Waits text c' ls

/-- A walk eats a token if behind blanks it does. -/
theorem eats_of_runFrom {w : Walk Bool} {t : Token} (hproper : t.IsProper)
    (htaken : ∀ {text : List Char} {c : Cursor} {rest : List Char}, c.On text (t.text ++ rest) →
      t.EndsBefore rest → runFrom w text c = (.ok true, c.moveTo (c.position + utf8Length t.text)))
    (hleft : ∀ {text : List Char} {c : Cursor} {after : List Char}, c.On text after →
      (∀ rest, after = t.text ++ rest → ¬ t.EndsBefore rest) → runFrom w text c = (.ok false, c)) :
    Eats (skipBlanks >>= fun _ => w) t where
  taken h hafter := by
    obtain ⟨o, rfl⟩ := after?_eq_some_iff.1 hafter
    obtain ⟨c', after, hskip, hskips, hscan⟩ := exists_runFrom_skipBlanks h
    obtain ⟨rfl, rest, rfl, -, hends, rfl⟩ := (scan_eq_cons_iff hskips.head).1 hscan
    exact ⟨_, by rw [runFrom_bind_ok hskip, htaken hskips.on hends], hskips.passes hproper⟩
  left h hafter := by
    obtain ⟨c', after, hskip, hskips, rfl⟩ := exists_runFrom_skipBlanks h
    refine ⟨c', ?_, hskips.waits⟩
    have hnone : ∀ rest, after = t.text ++ rest → ¬ t.EndsBefore rest := fun rest htext hends =>
      after?_eq_none_iff.1 hafter _ _ <|
        (scan_eq_cons_iff hskips.head).2 ⟨rfl, rest, htext, hproper, hends, rfl⟩
    rw [runFrom_bind_ok hskip, hleft hskips.on hnone]

/-- A mark, which ends wherever it stands, is eaten as a token. -/
theorem eats_eat {token : String} (t : Token) (htext : token.toList = t.text) (hproper : t.IsProper)
    (hends : ∀ rest, t.EndsBefore rest) : Eats (eat token) t := by
  refine eats_of_runFrom hproper (fun {_ _ rest} hon _ => ?_) (fun {_ _ after} hon hnone => ?_)
  · have hprefix : token.toList.isPrefixOf (t.text ++ rest) = true :=
      List.isPrefixOf_iff_prefix.2 (htext ▸ List.prefix_append _ rest)
    rw [runFrom_bind_ok (runFrom_rest hon), if_pos hprefix, htext, runFrom_bind_ok (runFrom_advance _), runFrom_pure]
  · have hprefix : ¬ token.toList.isPrefixOf after = true := by
      rw [List.isPrefixOf_iff_prefix, htext]
      rintro ⟨rest, rfl⟩
      exact hnone rest rfl (hends rest)
    rw [runFrom_bind_ok (runFrom_rest hon), if_neg hprefix, runFrom_pure]

theorem endsBefore_word_iff {word : String} {rest : List Char} :
    (Token.word word).EndsBefore rest ↔ (rest.head?.all fun c => !Text.isWordChar c) = true := by
  cases rest with
  | nil => simp [Token.EndsBefore]
  | cons c rest => simp [Token.EndsBefore]

/-- A keyword is eaten as a word. -/
theorem eats_eatKeyword {keyword : String} (hproper : (Token.word keyword).IsProper) :
    Eats (eatKeyword keyword) (.word keyword) := by
  refine eats_of_runFrom hproper (fun {_ _ rest} hon hends => ?_) (fun {_ _ after} hon hnone => ?_)
  · change Cursor.On _ _ (keyword.toList ++ rest) at hon
    have hprefix : keyword.toList.isPrefixOf (keyword.toList ++ rest) = true :=
      List.isPrefixOf_iff_prefix.2 (List.prefix_append _ rest)
    rw [runFrom_bind_ok (runFrom_rest hon), if_pos hprefix, runFrom_bind_ok (runFrom_cut _ rest),
      if_pos (endsBefore_word_iff.1 hends), runFrom_bind_ok (runFrom_advance _), runFrom_pure]
    rfl
  · rw [runFrom_bind_ok (runFrom_rest hon)]
    by_cases hprefix : keyword.toList.isPrefixOf after = true
    · obtain ⟨rest, rfl⟩ := List.isPrefixOf_iff_prefix.1 hprefix
      rw [if_pos hprefix, runFrom_bind_ok (runFrom_cut _ rest),
        if_neg (mt endsBefore_word_iff.2 (hnone rest rfl)), runFrom_pure]
    · rw [if_neg hprefix, runFrom_pure]

end Walk

end TypeText
end GroovyNew
