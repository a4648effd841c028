/-
# What number an integer literal writes

An integer literal without suffix writes a number by digits, most significant first, with any underscores
between them (`Number.SpellsDigits`):

| form | digits | value |
| --- | --- | --- |
| `0`, or digits of which the first is not `0` | decimal | the digits to the base 10 |
| `0x..`, `0X..` | hexadecimal, letters in either case | to the base 16 |
| `0b..`, `0B..` | binary | to the base 2 |
| `0` and more digits | octal | to the base 8 |

`Number.SpellsNumber` says so of texts, and `TypeSystem.infer?_integer` which type the literal has for each
number.  It is the narrowest of `int`, `long` and `java.math.BigInteger` that holds the number, as long as
the number has at most 128 bits.  A larger one is not read, and the literal counts as `int`
(`TypeSystem.infer?_integer_ne`).

The text is looked at three times: for a suffix, for the mark of the radix, and for the digits.  A digit is no
suffix, whatever the radix (`Number.IsDigit.suffixType?_eq_none`), and the second digit of an octal literal is
no mark (`Number.radixOf_octal`).
-/

import GroovyNew.Infer
import Mathlib.Data.Nat.Digits.Defs

namespace GroovyNew
namespace Number

/-! ### Literals -/

/-- The character is a digit of the value `d`, a letter in either case. -/
def IsDigit (radix : Nat) (c : Char) (d : Nat) : Prop :=
  d < radix ∧ (c = d.digitChar ∨ c = d.digitChar.toUpper)

/-- The characters are digits with any underscores between them; the values of the digits, most significant
first. -/
inductive SpellsDigits (radix : Nat) : List Char → List Nat → Prop
  | last {c : Char} {d : Nat} (digit : IsDigit radix c d) : SpellsDigits radix [c] [d]
  | more {c : Char} {d : Nat} {cs : List Char} {ds : List Nat} (digit : IsDigit radix c d)
    (underscores : Nat) (rest : SpellsDigits radix cs ds) :
    SpellsDigits radix (c :: (List.replicate underscores '_' ++ cs)) (d :: ds)

/-- The radix that a letter behind a leading `0` marks. -/
def markedRadix? : Char → Option Nat
  | 'x' | 'X' => some 16
  | 'b' | 'B' => some 2
  | _ => none

/-- The characters are an integer literal without suffix, which writes the number. -/
inductive SpellsNumber : List Char → Nat → Prop
  | zero : SpellsNumber ['0'] 0
  | decimal {cs : List Char} {ds : List Nat} (digits : SpellsDigits 10 cs ds)
    (first : ds.head? ≠ some 0) : SpellsNumber cs (Nat.ofDigits 10 ds.reverse)
  | marked {mark : Char} {radix : Nat} {cs : List Char} {ds : List Nat}
    (marks : markedRadix? mark = some radix) (digits : SpellsDigits radix cs ds) :
    SpellsNumber ('0' :: mark :: cs) (Nat.ofDigits radix ds.reverse)
  | octal {cs : List Char} {ds : List Nat} (underscores : Nat) (digits : SpellsDigits 8 cs ds) :
    SpellsNumber ('0' :: (List.replicate underscores '_' ++ cs)) (Nat.ofDigits 8 ds.reverse)

/-! ### Digits -/

variable {radix : Nat} {c : Char} {d : Nat} {cs : List Char} {ds : List Nat}

/-- What holds of all hexadecimal digits holds of a digit. -/
theorem IsDigit.of_forall {P : Char → Nat → Prop} (h : IsDigit radix c d) (hradix : radix ≤ 16)
    (hall : ∀ d < 16, P d.digitChar d ∧ P d.digitChar.toUpper d) : P c d := by
  obtain ⟨hlower, hupper⟩ := hall d (Nat.lt_of_lt_of_le h.1 hradix)
  obtain rfl | rfl := h.2
  · exact hlower
  · exact hupper

theorem IsDigit.toLower_eq (h : IsDigit radix c d) (hradix : radix ≤ 16) : c.toLower = d.digitChar :=
  h.of_forall (P := fun c d => c.toLower = d.digitChar) hradix (by decide +kernel)

theorem IsDigit.ne_underscore (h : IsDigit radix c d) (hradix : radix ≤ 16) : c ≠ '_' :=
  h.of_forall (P := fun c _ => c ≠ '_') hradix (by decide +kernel)

/-- **A digit is no suffix.** -/
theorem IsDigit.suffixType?_eq_none (h : IsDigit radix c d) (hradix : radix ≤ 16) :
    suffixType? (some c) = none :=
  h.of_forall (P := fun c _ => suffixType? (some c) = none) hradix (by decide +kernel)

theorem digit?_digitChar (h : d < radix) (hradix : radix ≤ 16) : digit? radix d.digitChar = some d := by
  have hall : ∀ d < 16, digit? 16 d.digitChar = some d := by decide +kernel
  have hvalue := hall d (Nat.lt_of_lt_of_le h hradix)
  unfold digit? at hvalue ⊢
  rw [Option.filter_eq_some_iff] at hvalue ⊢
  exact ⟨hvalue.1, decide_eq_true h⟩

/-- Without the underscores, the characters are the digits, of which there is one at least. -/
theorem SpellsDigits.forall₂ (h : SpellsDigits radix cs ds) (hradix : radix ≤ 16) :
    List.Forall₂ (IsDigit radix) (cs.filter (· != '_')) ds ∧ ds ≠ [] := by
  induction h with
  | last digit =>
    have hkeep := digit.ne_underscore hradix
    simpa [hkeep] using digit
  | more digit underscores rest ih =>
    have hkeep := digit.ne_underscore hradix
    simpa [hkeep] using ⟨digit, ih.1⟩

/-- The digits in lower case. -/
theorem map_toLower_of_forall₂ (h : List.Forall₂ (IsDigit radix) cs ds) (hradix : radix ≤ 16) :
    cs.map Char.toLower = ds.map Nat.digitChar := by
  induction h with
  | nil => rfl
  | cons digit rest ih => rw [List.map_cons, List.map_cons, digit.toLower_eq hradix, ih]

theorem forall_mem_of_forall₂ (h : List.Forall₂ (IsDigit radix) cs ds) :
    (∀ c ∈ cs, ∃ d, IsDigit radix c d) ∧ ∀ d ∈ ds, d < radix := by
  induction h with
  | nil => exact ⟨fun _ hc => absurd hc List.not_mem_nil, fun _ hd => absurd hd List.not_mem_nil⟩
  | cons digit rest ih =>
    exact ⟨List.forall_mem_cons.2 ⟨⟨_, digit⟩, ih.1⟩, List.forall_mem_cons.2 ⟨digit.1, ih.2⟩⟩

/-- Where digits come last, no suffix is seen. -/
theorem suffixType?_getLast?_append (h : List.Forall₂ (IsDigit radix) cs ds) (hradix : radix ≤ 16)
    (hne : ds ≠ []) (marks : List Char) : suffixType? (marks ++ cs).getLast? = none := by
  have hcs : cs ≠ [] := by
    rintro rfl
    cases h
    exact hne rfl
  obtain ⟨d, hd⟩ := (forall_mem_of_forall₂ h).1 _ (List.getLast_mem hcs)
  rw [List.getLast?_append, List.getLast?_eq_some_getLast hcs, Option.some_or]
  exact hd.suffixType?_eq_none hradix

/-! ### Numbers -/

/-- **Digits are read as the number that they write**, if it has at most 128 bits. -/
theorem digits?_map_digitChar (hds : ∀ d ∈ ds, d < radix) (hradix : radix ≤ 16) (before : List Nat) :
    digits? radix (Nat.ofDigits radix before) (ds.map Nat.digitChar) =
      some (Nat.ofDigits radix (ds.reverse ++ before)) := by
  induction ds generalizing before with
  | nil => rfl
  | cons d ds ih =>
    rw [List.forall_mem_cons] at hds
    have hvalue : Nat.ofDigits radix before * radix + d = Nat.ofDigits radix (d :: before) := by
      rw [Nat.ofDigits_cons, Nat.mul_comm, Nat.add_comm]
    rw [List.map_cons, digits?, digit?_digitChar hds.1 hradix]
    dsimp only
    rw [hvalue, ih hds.2, List.reverse_cons, List.append_assoc, List.singleton_append]

/-- Without a plus sign the digits are read as they are. -/
theorem value?_cons (h : c ≠ '+') : value? radix (c :: cs) =
    (digits? radix 0 (c :: cs)).filter (· < Nat.pow 2 128) := by
  rw [value?]
  · rfl
  · rintro ds heq
    exact h (List.cons.inj heq).1

theorem value?_map_digitChar (hds : ∀ d ∈ ds, d < radix) (hradix : radix ≤ 16) (hne : ds ≠ []) :
    value? radix (ds.map Nat.digitChar) =
      if Nat.ofDigits radix ds.reverse < 2 ^ 128 then some (Nat.ofDigits radix ds.reverse) else none := by
  have hdigits := digits?_map_digitChar hds hradix []
  rw [List.append_nil, Nat.ofDigits_nil] at hdigits
  obtain ⟨d, ds, rfl⟩ := List.exists_cons_of_ne_nil hne
  have hplus : d.digitChar ≠ '+' := by
    have hall : ∀ d < 16, d.digitChar ≠ '+' := by decide
    exact hall d (Nat.lt_of_lt_of_le (hds d List.mem_cons_self) hradix)
  rw [List.map_cons] at hdigits ⊢
  rw [value?_cons hplus, hdigits, Option.filter_some]
  simp

/-- A decimal literal has no mark of a radix: its first digit is not `0`. -/
theorem radixOf_decimal (hds : ∀ d ∈ ds, d < 10) (hfirst : ds.head? ≠ some 0) :
    radixOf (ds.map Nat.digitChar) = (10, ds.map Nat.digitChar) := by
  cases ds with
  | nil => rfl
  | cons d ds =>
    have hall : ∀ d < 10, d ≠ 0 → d.digitChar ≠ '0' := by decide
    have hzero : d.digitChar ≠ '0' :=
      hall d (hds d List.mem_cons_self) fun heq => hfirst (congrArg some heq)
    rw [List.map_cons]
    unfold radixOf
    split <;> simp_all

/-- A marked literal has the radix of its mark. -/
theorem radixOf_marked {mark : Char} (h : markedRadix? mark = some radix) :
    radix ≤ 16 ∧ mark ≠ '_' ∧ ∀ cs, radixOf ('0' :: mark.toLower :: cs) = (radix, cs) := by
  unfold markedRadix? at h
  split at h <;> cases h
  all_goals exact ⟨by decide, by decide, fun _ => rfl⟩

/-- The second digit of an octal literal is no mark of another radix. -/
theorem radixOf_octal (hds : ∀ d ∈ ds, d < 8) (hne : ds ≠ []) :
    radixOf ('0' :: ds.map Nat.digitChar) = (8, ds.map Nat.digitChar) := by
  obtain ⟨d, ds, rfl⟩ := List.exists_cons_of_ne_nil hne
  have hall : ∀ d < 8, d.digitChar ≠ 'x' ∧ d.digitChar ≠ 'b' := by decide
  obtain ⟨hx, hb⟩ := hall d (hds d List.mem_cons_self)
  rw [List.map_cons]
  unfold radixOf
  split <;> simp_all

/-! ### Types -/

/-- Behind the mark of their radix, digits have the narrowest type for the number, if it is read. -/
theorem integerType_of_digits {text : String} (marks : List Char)
    (htext : text.toList.filter (· != '_') = marks ++ cs) (hcs : List.Forall₂ (IsDigit radix) cs ds)
    (hradix : radix ≤ 16) (hne : ds ≠ [])
    (hmarks : radixOf (marks.map Char.toLower ++ ds.map Nat.digitChar) = (radix, ds.map Nat.digitChar)) :
    integerType text = if Nat.ofDigits radix ds.reverse < 2 ^ 128 then
      narrowest (Nat.ofDigits radix ds.reverse) else .raw "int" := by
  have hds := (forall_mem_of_forall₂ hcs).2
  simp only [integerType, htext, suffixType?_getLast?_append hcs hradix hne, Option.getD_none, plainType,
    List.map_append, map_toLower_of_forall₂ hcs hradix, hmarks, value?_map_digitChar hds hradix hne]
  split
  · rename_i hvalue
    split at hvalue
    · rw [if_pos ‹_›, Option.some.inj hvalue]
    · cases hvalue
  · rename_i hvalue
    split at hvalue
    · cases hvalue
    · rw [if_neg ‹_›]

/-- **An integer literal has the narrowest type for its number**, if it has at most 128 bits. -/
theorem integerType_of_spellsNumber {text : String} {n : Nat} (h : SpellsNumber text.toList n) :
    integerType text = if n < 2 ^ 128 then narrowest n else .raw "int" := by
  generalize htext : text.toList = cs at h
  cases h with
  | zero =>
    have hdigit : List.Forall₂ (IsDigit 10) ['0'] [0] := .cons ⟨by decide, .inl rfl⟩ .nil
    exact integerType_of_digits [] (by rw [htext]; rfl) hdigit (by decide) (List.cons_ne_nil _ _) rfl
  | decimal digits first =>
    obtain ⟨hdigits, hne⟩ := digits.forall₂ (by decide)
    exact integerType_of_digits [] (by rw [htext]; rfl) hdigits (by decide) hne
      (radixOf_decimal (forall_mem_of_forall₂ hdigits).2 first)
  | @marked mark radix cs ds marks digits =>
    obtain ⟨hradix, hmark, hmarks⟩ := radixOf_marked marks
    obtain ⟨hdigits, hne⟩ := digits.forall₂ hradix
    have hkeep : ('0' :: mark :: cs).filter (· != '_') = ['0', mark] ++ cs.filter (· != '_') := by
      simp [hmark]
    exact integerType_of_digits ['0', mark] (by rw [htext, hkeep]) hdigits hradix hne (hmarks _)
  | @octal cs ds underscores digits =>
    obtain ⟨hdigits, hne⟩ := digits.forall₂ (by decide)
    have hkeep : ('0' :: (List.replicate underscores '_' ++ cs)).filter (· != '_') =
        ['0'] ++ cs.filter (· != '_') := by simp
    exact integerType_of_digits ['0'] (by rw [htext, hkeep]) hdigits (by decide) hne
      (radixOf_octal (forall_mem_of_forall₂ hdigits).2 hne)

/-- Digits without underscores between them spell their values. -/
theorem spellsDigits_of_eq_map (hcs : cs = ds.map Nat.digitChar) (hds : ∀ d ∈ ds, d < radix)
    (hne : ds ≠ []) : SpellsDigits radix cs ds := by
  subst hcs
  induction ds with
  | nil => exact absurd rfl hne
  | cons d ds ih =>
    rw [List.forall_mem_cons] at hds
    cases ds with
    | nil => exact .last ⟨hds.1, .inl rfl⟩
    | cons d' ds => exact .more ⟨hds.1, .inl rfl⟩ 0 (ih hds.2 (List.cons_ne_nil d' ds))

end Number

namespace TypeSystem

open Number

/-- **The type of an integer literal.**  It is `int`, `long` or `java.math.BigInteger`, the first that holds
the number, if the number has at most 128 bits, and `int` otherwise. -/
theorem infer?_integer (ts : TypeSystem) (ctx : Context) {text : String} {n : Nat}
    (h : SpellsNumber text.toList n) : ts.infer? ctx (.literal (.integer text)) =
      some (if n ≤ 2 ^ 31 - 1 then .raw "int"
        else if n ≤ 2 ^ 63 - 1 then .raw "long"
        else if n < 2 ^ 128 then .id "java.math.BigInteger"
        else .raw "int") := by
  have hint : n < Nat.pow 2 31 ↔ n ≤ 2 ^ 31 - 1 := Nat.lt_iff_le_pred (by decide)
  have hlong : n < Nat.pow 2 63 ↔ n ≤ 2 ^ 63 - 1 := Nat.lt_iff_le_pred (by decide)
  rw [infer?, Literal.type, integerType_of_spellsNumber h, narrowest]
  simp only [hint, hlong]
  by_cases hbits : n < 2 ^ 128
  · simp only [hbits, if_true]
  · have hnint : ¬n ≤ 2 ^ 31 - 1 := by omega
    have hnlong : ¬n ≤ 2 ^ 63 - 1 := by omega
    simp only [hbits, hnint, hnlong, if_false]

/-- `0x7F_f` is an `int`, `020000000000` a `long` and `9223372036854775808` a big integer. -/
theorem infer?_integer_forms :
    SpellsNumber "0x7F_f".toList 2047 ∧
      TypeSystem.empty.infer? {} (.literal (.integer "0x7F_f")) = some (.raw "int") ∧
      SpellsNumber "020000000000".toList (2 ^ 31) ∧
      TypeSystem.empty.infer? {} (.literal (.integer "020000000000")) = some (.raw "long") ∧
      SpellsNumber "9223372036854775808".toList (2 ^ 63) ∧
      TypeSystem.empty.infer? {} (.literal (.integer "9223372036854775808")) =
        some (.id "java.math.BigInteger") := by
  have hhex : SpellsNumber "0x7F_f".toList 2047 := by
    have h7 : IsDigit 16 '7' 7 := ⟨by decide, .inl rfl⟩
    have hF : IsDigit 16 'F' 15 := ⟨by decide, .inr rfl⟩
    have hf : IsDigit 16 'f' 15 := ⟨by decide, .inl rfl⟩
    exact .marked rfl (.more h7 0 (.more hF 1 (.last hf)))
  have hoctal : SpellsNumber "020000000000".toList (2 ^ 31) := by
    have hdigits : SpellsDigits 8 "20000000000".toList (2 :: List.replicate 10 0) :=
      spellsDigits_of_eq_map (by decide) (by decide) (by decide)
    exact .octal 0 hdigits
  have hdecimal : SpellsNumber "9223372036854775808".toList (2 ^ 63) := by
    have hdigits : SpellsDigits 10 "9223372036854775808".toList
        [9, 2, 2, 3, 3, 7, 2, 0, 3, 6, 8, 5, 4, 7, 7, 5, 8, 0, 8] :=
      spellsDigits_of_eq_map (by decide) (by decide) (by decide)
    exact .decimal hdigits (by decide)
  exact ⟨hhex, infer?_integer .empty {} hhex, hoctal, infer?_integer .empty {} hoctal, hdecimal,
    infer?_integer .empty {} hdecimal⟩

/-- The literal that writes 2^128 is an `int`, not a big integer. -/
theorem infer?_integer_ne :
    SpellsNumber "340282366920938463463374607431768211456".toList (2 ^ 128) ∧ 2 ^ 63 - 1 < 2 ^ 128 ∧
      TypeSystem.empty.infer? {} (.literal (.integer "340282366920938463463374607431768211456")) =
        some (.raw "int") ∧
      TypeSystem.empty.infer? {} (.literal (.integer "340282366920938463463374607431768211456")) ≠
        some (.id "java.math.BigInteger") := by
  have hdigits : SpellsDigits 10 "340282366920938463463374607431768211456".toList
      [3, 4, 0, 2, 8, 2, 3, 6, 6, 9, 2, 0, 9, 3, 8, 4, 6, 3, 4, 6, 3, 3, 7, 4, 6, 0, 7, 4, 3, 1, 7, 6,
        8, 2, 1, 1, 4, 5, 6] :=
    spellsDigits_of_eq_map (by decide) (by decide) (by decide)
  have hspells : SpellsNumber "340282366920938463463374607431768211456".toList (2 ^ 128) :=
    .decimal hdigits (by decide)
  refine ⟨hspells, by decide, by decide +kernel, by decide +kernel⟩

end TypeSystem
end GroovyNew
