/-
# Width of a text

The columns of a line of text on a terminal.  A character mostly takes the columns it takes alone,
but some take others in front of certain characters: what a variation selector, a skin tone or a
joiner follows, letters that form one glyph with the letters after them, regional indicators that
form flags.  So a line is measured from right to left, and each step knows what begins to the right
(`Following`).

* `Following.chosen?`: a variation selector asks for a form that the character has;
* `Group.join?`: the character becomes part of the group that begins to the right;
* otherwise the character counts alone, and a new group begins with it.
-/

import GroovyNew.Text.Emoji
import GroovyNew.Text.Width

namespace GroovyNew
namespace Text

/-- The form that a variation selector asks of the character before it. -/
inductive Selector where
  | picture
  | text
  | wide
  deriving DecidableEq, Repr

/-- The letters and signs that may form one glyph with characters before them. -/
inductive Letter where
  /-- Hebrew lamed. -/
  | lamed
  /-- A Khmer letter that can stand below another one. -/
  | khmer
  /-- Buginese ya. -/
  | ya
  /-- The Buginese vowel sign i in front of ya. -/
  | vowelYa
  /-- A Tifinagh consonant. -/
  | tifinagh
  /-- A Tifinagh consonant after the consonant joiner. -/
  | joinedTifinagh
  /-- One of the Lisu tones that follow another tone. -/
  | tone
  /-- The Old Turkic letter orkhon i. -/
  | orkhonI
  deriving DecidableEq, Repr

/-- What begins to the right of a character, as far as the character may become part of it. -/
inductive Group where
  /-- Nothing that takes part in a group. -/
  | plain
  /-- A picture. -/
  | emoji
  /-- A skin tone. -/
  | modifier
  /-- One regional indicator. -/
  | regional
  /-- Several regional indicators. -/
  | regionals
  /-- A joiner in front of a picture. -/
  | joined
  /-- A keycap in front of `joined`. -/
  | keycap
  /-- One regional indicator in front of `joined`. -/
  | joinedRegional
  /-- An even number of regional indicators in front of `joined`. -/
  | evenRegionals
  /-- An odd number of them, three at least. -/
  | oddRegionals
  /-- The end of a flag's tags, and so many letters before it. -/
  | tagLetters (n : Nat)
  /-- So many digits before the letters of a flag's tags. -/
  | tagDigits (n : Nat)
  /-- The Kirat Rai vowel sign e. -/
  | vowelE
  /-- The Kirat Rai vowel sign ai. -/
  | vowelAi
  /-- An Arabic letter of the group of alef, marks before it included. -/
  | alef
  /-- A letter, with marks before it; it is linked if a joiner is among them. -/
  | letter (l : Letter) (linked : Bool)
  deriving DecidableEq, Repr

/-- What begins to the right of a character. -/
structure Following where
  group : Group := .plain
  /-- The variation selectors in front of the group, each of them once, the nearest first. -/
  selectors : List Selector := []
  deriving DecidableEq, Repr

/-- The code point of the joiner, which makes one glyph of the characters around it. -/
def joiner : Nat := 0x200D

namespace Selector

/-- The form that a character asks for if it is a variation selector. -/
def ofChar? (c : Char) : Option Selector :=
  match c.toNat with
  | 0xFE0F => some .picture
  | 0xFE0E => some .text
  | 0xFE01 => some .wide
  | _ => none

end Selector

/-! ### Letters -/

/-- Arabic letters of the group of alef. -/
def isAlef (c : Char) : Bool :=
  Ranges.has [(0x622, 0x623), (0x625, 0x625), (0x627, 0x627), (0x671, 0x673), (0x675, 0x675),
    (0x773, 0x774), (0x870, 0x882)] c

/-- Arabic letters that form one glyph with alef. -/
def isLam (c : Char) : Bool :=
  Ranges.has [(0x644, 0x644), (0x6B5, 0x6B8), (0x76A, 0x76A), (0x8A6, 0x8A6), (0x8C7, 0x8C7)] c

/-- The ranges of characters without a column that part the letters around them. -/
def partingRanges : Ranges :=
  [(0x605, 0x605), (0x890, 0x891), (0x8E2, 0x8E2), (0x9BE, 0x9BE), (0x9D7, 0x9D7), (0xB3E, 0xB3E),
   (0xB57, 0xB57), (0xBBE, 0xBBE), (0xBD7, 0xBD7), (0xCC0, 0xCC0), (0xCC2, 0xCC2), (0xCC7, 0xCC8),
   (0xCCA, 0xCCB), (0xCD5, 0xCD6), (0xD3E, 0xD3E), (0xD4E, 0xD4E), (0xD57, 0xD57), (0xDCF, 0xDCF),
   (0xDDF, 0xDDF), (0x1160, 0x11FF), (0x1715, 0x1715), (0x1734, 0x1734), (0x180E, 0x180E),
   (0x1B35, 0x1B35), (0x1B3B, 0x1B3B), (0x1B3D, 0x1B3D), (0x1B43, 0x1B44), (0x1BAA, 0x1BAA),
   (0x1BF2, 0x1BF3), (0x200C, 0x200D), (0x2065, 0x2069), (0x302E, 0x302F), (0x3164, 0x3164),
   (0xA8FA, 0xA8FA), (0xA953, 0xA953), (0xA9C0, 0xA9C0), (0xD7B0, 0xD7C6), (0xD7CB, 0xD7FB),
   (0xFFA0, 0xFFA0), (0xFFF0, 0xFFF8), (0x111C0, 0x111C0), (0x111C2, 0x111C3), (0x11235, 0x11235),
   (0x1133E, 0x1133E), (0x1134D, 0x1134D), (0x11357, 0x11357), (0x113B8, 0x113B8),
   (0x113C2, 0x113C2), (0x113C5, 0x113C5), (0x113C7, 0x113C9), (0x113CF, 0x113CF),
   (0x113D1, 0x113D1), (0x114B0, 0x114B0), (0x114BD, 0x114BD), (0x115AF, 0x115AF),
   (0x116B6, 0x116B6), (0x11930, 0x11930), (0x1193D, 0x1193D), (0x1193F, 0x1193F),
   (0x11941, 0x11941), (0x11A84, 0x11A89), (0x11D46, 0x11D46), (0x11F02, 0x11F02),
   (0x11F41, 0x11F41), (0x16FF0, 0x16FF1), (0x1D165, 0x1D166), (0x1D16D, 0x1D172),
   (0x1D250, 0x1D252), (0x1D25F, 0x1D25F), (0x1D280, 0x1D281), (0xE0000, 0xE0000),
   (0xE0002, 0xE001F), (0xE0080, 0xE00FF), (0xE01F0, 0xE0FFF)]

/-- A mark that stands between two letters without parting them. -/
def isTransparent (c : Char) : Bool := charWidth c == 0 && !partingRanges.has c

/-- A mark that is ignored when letters form one glyph. -/
def isIgnorable (c : Char) : Bool :=
  Ranges.has [(0x34F, 0x34F), (0x17B4, 0x17B5), (0x180B, 0x180D), (0x180F, 0x180F),
    (0xFE00, 0xFE0F), (0xE0100, 0xE01EF)] c

/-- Khmer letters that can stand below another one. -/
def isKhmer (c : Char) : Bool :=
  Ranges.has [(0x1780, 0x1782), (0x1784, 0x1787), (0x1789, 0x178C), (0x178E, 0x1793),
    (0x1795, 0x1798), (0x179B, 0x179D), (0x17A0, 0x17A0), (0x17A2, 0x17A2), (0x17A7, 0x17A7),
    (0x17AB, 0x17AC), (0x17AF, 0x17AF)] c

/-- Tifinagh consonants. -/
def isTifinagh (c : Char) : Bool := Ranges.has [(0x2D31, 0x2D65), (0x2D6F, 0x2D6F)] c

/-- The letter that a character is, if it may form one glyph with characters before it. -/
def Letter.ofChar? (c : Char) : Option Letter :=
  match c.toNat with
  | 0x5DC => some .lamed
  | 0x1A10 => some .ya
  | 0xA4FC | 0xA4FD => some .tone
  | 0x10C03 => some .orkhonI
  | _ =>
    if isKhmer c then some .khmer
    else if isTifinagh c then some .tifinagh
    else none

/-- What the character `c` adds as part of the glyph of the letter after it, and the group that
begins with it. -/
def Letter.join? (c : Char) : Letter → (linked : Bool) → Option (Int × Group)
  | .lamed, true => if c.toNat == 0x5D0 then some (0, .plain) else none
  | .khmer, _ => if c.toNat == 0x17D2 then some (-1, .plain) else none
  | .ya, true => if c.toNat == 0x1A17 then some (0, .letter .vowelYa true) else none
  | .vowelYa, _ => if c.toNat == 0x1A15 then some (0, .plain) else none
  | .tifinagh, linked =>
    if c.toNat == 0x2D7F then some (1, .letter .joinedTifinagh true)
    else if linked && isTifinagh c then some (0, .plain)
    else none
  | .joinedTifinagh, _ => if isTifinagh c then some (-1, .plain) else none
  | .tone, _ => if Ranges.has [(0xA4F8, 0xA4FB)] c then some (0, .plain) else none
  | .orkhonI, true => if c.toNat == 0x10C32 then some (0, .plain) else none
  | _, _ => none

/-! ### Groups -/

namespace Group

/-- The group that begins with a character. -/
def ofChar (c : Char) : Group :=
  if c.toNat ≤ 0xA0 then .plain
  else if isEmoji c then .emoji
  else if isModifier c then .modifier
  else if isRegional c then .regional
  else if isAlef c then .alef
  else if c.toNat == 0x16D67 then .vowelE
  else if c.toNat == 0x16D68 then .vowelAi
  else match Letter.ofChar? c with
    | some l => .letter l false
    | none => .plain

/-- The group forms one glyph with letters before it. -/
def isLetter : Group → Bool
  | .alef | .letter _ _ => true
  | _ => false

/-- A joiner begins the group, or a keycap in front of one. -/
def isJoined : Group → Bool
  | .joined | .keycap => true
  | _ => false

/-- What the character `c` adds as part of what a joiner begins. -/
def joinJoined? (c : Char) : Option (Int × Group) :=
  if c.toNat == 0x20E3 then some (0, .keycap)
  else if isRegional c then some (1, .joinedRegional)
  else if isModifier c then some (0, .modifier)
  else if c.toNat == 0xE007F then some (0, .tagLetters 0)
  else if isEmoji c then some (0, .emoji)
  else none

/-- A letter among the tags of a flag. -/
def isTagLetter (c : Char) : Bool := Ranges.has [(0xE0061, 0xE007A)] c

/-- A digit among the tags of a flag. -/
def isTagDigit (c : Char) : Bool := Ranges.has [(0xE0030, 0xE0039)] c

/-- The black flag, which the tags after it make a flag of a region. -/
def isFlag (c : Char) : Bool := c.toNat == 0x1F3F4

/-- What the character `c` adds as part of the group, and the group that begins with it. -/
def join? (c : Char) : Group → Option (Int × Group)
  | .plain | .keycap => none
  | .emoji => if c.toNat == joiner then some (0, .joined) else none
  | .modifier =>
    if isModifierBase c then some (0, .emoji)
    else if c.toNat == joiner then some (0, .joined)
    else none
  | .regional => if isRegional c then some (1, .regionals) else none
  | .regionals =>
    if isRegional c then some (1, .regionals)
    else if c.toNat == joiner then some (0, .joined)
    else none
  | .joined => joinJoined? c
  | .joinedRegional => if isRegional c then some (-1, .evenRegionals) else none
  | .evenRegionals =>
    if isRegional c then some (3, .oddRegionals)
    else if c.toNat == joiner then some (0, .joined)
    else none
  | .oddRegionals =>
    if isRegional c then some (-1, .evenRegionals)
    else if c.toNat == joiner then some (0, .joined)
    else none
  | .tagLetters n =>
    if isTagLetter c && n < 6 then some (0, .tagLetters (n + 1))
    else if isTagDigit c && n < 5 then some (0, .tagDigits 1)
    else if isFlag c && 3 ≤ n then some (0, .emoji)
    else none
  | .tagDigits n =>
    if isTagDigit c && n < 3 then some (0, .tagDigits (n + 1))
    else if isFlag c && n == 3 then some (0, .emoji)
    else none
  | .vowelE =>
    match c.toNat with
    | 0x16D63 | 0x16D69 => some (0, .plain)
    | 0x16D67 => some (0, .vowelAi)
    | 0x16D68 => some (1, .vowelE)
    | _ => none
  | .vowelAi => if c.toNat == 0x16D63 then some (0, .plain) else none
  | .alef =>
    if isLam c then some (0, .plain)
    else if isTransparent c then some (0, .alef)
    else none
  | .letter l linked =>
    if c.toNat == joiner then some (0, .letter l true)
    else if isIgnorable c then some (0, .letter l linked)
    else l.join? c linked

end Group

namespace Following

/-- What begins with a selector in front of it.  A letter is seen through any selectors, and they add
up in front of it, but one that asks for a picture asks it of the next character alone.  A joiner is
seen through one selector that asks for a picture.  Anything else is hidden by the last selector. -/
def select (next : Following) (s : Selector) : Following :=
  if next.group.isLetter then
    { next with selectors := s :: (next.selectors.erase .picture).erase s }
  else if s == .picture && next.group.isJoined && next.selectors.isEmpty then
    { next with selectors := [s] }
  else { selectors := [s] }

theorem nodup_select {next : Following} (h : next.selectors.Nodup) (s : Selector) :
    (next.select s).selectors.Nodup := by
  unfold select
  split
  · exact List.nodup_cons.2 ⟨(h.erase _).not_mem_erase, (h.erase _).erase _⟩
  · split <;> simp

/-- The group once the selectors in front of it find no character with a form they ask for: only a
letter is still seen through them. -/
def released (next : Following) : Group :=
  if next.selectors.isEmpty || next.group.isLetter then next.group else .plain

/-- The columns of the character `c` in the form that a selector asks for, if it has that form, and
the group that begins with it. -/
def formOf? (next : Following) (c : Char) : Selector → Option (Int × Group)
  | .picture => if isSelectable c then some (if next.group.isJoined then 0 else 2, .emoji) else none
  | .text => if hasNarrowText c then some (1, .plain) else none
  | .wide => if Ranges.has [(0x2018, 0x2019), (0x201C, 0x201D)] c then some (2, .plain) else none

/-- The form of the character `c` that the nearest selector asks for of those that find one. -/
def chosen? (next : Following) (c : Char) : Option (Int × Group) :=
  next.selectors.findSome? (next.formOf? c)

/-- The columns that the character `c` adds, and what then begins to the right. -/
def step (c : Char) (next : Following) : Int × Following :=
  match next.chosen? c, Selector.ofChar? c with
  | some (n, group), _ => (n, { group })
  | none, some s => (0, next.select s)
  | none, none =>
    match next.released.join? c with
    | some (n, group) => (n, { group })
    | none => (charWidth c, { group := .ofChar c })

end Following

/-- The columns of a line and what begins with it, measured from its end. -/
def measure (cs : List Char) : Int × Following :=
  cs.foldr (fun c right =>
    let (n, next) := Following.step c right.2
    (right.1 + n, next)) (0, {})

@[simp] theorem measure_nil : measure [] = (0, {}) := rfl

theorem measure_cons (c : Char) (cs : List Char) :
    measure (c :: cs) =
      ((measure cs).1 + (Following.step c (measure cs).2).1,
        (Following.step c (measure cs).2).2) := rfl

/-- The columns of a line of text. -/
def columns (line : String) : Nat := (measure line.toList).1.toNat

end Text
end GroovyNew
