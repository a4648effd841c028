/-
# The parser step by step

Each part of the parser either looks for one token, or reads a smaller part and goes on with what is left
(`Parsed.andThen`).  The equations here say so: of names (`name_eq`), of brackets (`brackets_eq`), of types
(`type_bounded`, `type_unbounded`, `type_of_ne_question`), of type arguments (`arguments_eq`) and of texts
(`parse_eq`).  No step leaves more lexemes than there were.
-/

import GroovyNew.Proofs.TypeRef.Parsing

namespace GroovyNew
namespace TypeText

/-! ### Steps -/

/-- The lexemes after a token, if it comes first. -/
def after? (t : Token) : List Lexeme → Option (List Lexeme)
  | [] => none
  | l :: ls => if l.token = t then some ls else none

theorem after?_eq_some_iff {t : Token} {ls ls' : List Lexeme} :
    after? t ls = some ls' ↔ ∃ o, ls = ⟨o, t⟩ :: ls' := by
  cases ls with
  | nil => simp [after?]
  | cons l ls =>
    obtain ⟨o, token⟩ := l
    simp [after?]

theorem after?_eq_none_iff {t : Token} {ls : List Lexeme} :
    after? t ls = none ↔ ∀ o ls', ls ≠ ⟨o, t⟩ :: ls' := by
  rw [Option.eq_none_iff_forall_ne_some, forall_comm]
  simp only [ne_eq, after?_eq_some_iff, not_exists]

/-- Goes on with what a step of the parser returns. -/
def Parsed.andThen {α β : Type} (p : Parsed α) (g : α → List Lexeme → Parsed β) : Parsed β :=
  match p with
  | .error f => .error f
  | .ok (a, ls) => g a ls

/-- A word of a name. -/
def firstWord (stop : Nat) : List Lexeme → Parsed String
  | ⟨offset, .word w⟩ :: ls =>
    if startsWithDigit w then .error ⟨.leadingDigit, offset⟩ else .ok (w, ls)
  | ls => .error ⟨.expectedIdentifier, position stop ls⟩

/-- Nothing may be left behind a type that fills a text. -/
def filling (t : TypeRef) : List Lexeme → Parsed TypeRef
  | [] => .ok (t, [])
  | l :: _ => .error ⟨.trailingInput, l.offset⟩

/-! ### The parts of the parser -/

theorem name_eq (stop : Nat) (ls : List Lexeme) :
    name stop ls = (firstWord stop ls).andThen fun w ls₁ => match after? .dot ls₁ with
      | some ls₂ => (name stop ls₂).andThen fun n ls₃ => .ok (w ++ "." ++ n, ls₃)
      | none => .ok (w, ls₁) := by
  rcases ls with _ | ⟨⟨o, token⟩, ls⟩
  · rfl
  cases token with
  | word w =>
    rw [firstWord]
    cases hdigit : startsWithDigit w with
    | true =>
      rcases ls with _ | ⟨⟨o', token'⟩, ls⟩
      · simp [name, hdigit, Parsed.andThen]
      · cases token' <;> simp [name, hdigit, Parsed.andThen]
    | false =>
      rcases ls with _ | ⟨⟨o', token'⟩, ls⟩
      · simp [name, hdigit, Parsed.andThen, after?]
      · cases token' <;> simp [name, hdigit, Parsed.andThen, after?]
        cases name stop ls <;> rfl
  | _ => rfl

theorem brackets_eq (stop : Nat) (t : TypeRef) (ls : List Lexeme) :
    brackets stop t ls = match after? .openBracket ls with
      | some ls₁ => match after? .closeBracket ls₁ with
        | some ls₂ => brackets stop t.arrayOf ls₂
        | none => .error ⟨.expectedBracket, position stop ls₁⟩
      | none => .ok (t, ls) := by
  rcases ls with _ | ⟨⟨o, token⟩, ls⟩
  · rfl
  cases token with
  | openBracket =>
    rcases ls with _ | ⟨⟨o', token'⟩, ls⟩
    · rfl
    · cases token' <;> rfl
  | _ => rfl

theorem type_bounded (stop fuel o o' : Nat) (isUpper : Bool) (ls : List Lexeme) :
    type stop (fuel + 1) (⟨o, .question⟩ :: ⟨o', .word (keyword isUpper)⟩ :: ls) =
      (type stop fuel ls).andThen fun t ls₁ => .ok (.wildcard (some t) isUpper, ls₁) := by
  cases isUpper with
  | true =>
    rw [keyword, type]
    cases type stop fuel ls <;> rfl
  | false =>
    rw [keyword, type]
    cases type stop fuel ls <;> rfl

theorem type_unbounded {ls : List Lexeme} (h : ∀ isUpper, after? (.word (keyword isUpper)) ls = none)
    (stop fuel o : Nat) :
    type stop (fuel + 1) (⟨o, .question⟩ :: ls) = .ok (.wildcard none true, ls) := by
  rw [type]
  · exact after?_eq_none_iff.1 (h true)
  · exact after?_eq_none_iff.1 (h false)

theorem type_of_ne_question {stop fuel : Nat} {ls : List Lexeme} (h : after? .question ls = none) :
    type stop (fuel + 1) ls = (name stop ls).andThen fun n ls₁ => match after? .less ls₁ with
      | some ls₂ => (arguments stop fuel ls₂).andThen fun args ls₃ => match after? .greater ls₃ with
        | some ls₄ => brackets stop (.generic (.named n) args) ls₄
        | none => .error ⟨.expectedGreater, position stop ls₃⟩
      | none => brackets stop (.named n) ls₁ := by
  have hls := after?_eq_none_iff.1 h
  rw [type]
  · cases name stop ls with
    | error f => rfl
    | ok r =>
      obtain ⟨n, ls₁⟩ := r
      rcases ls₁ with _ | ⟨⟨o, token⟩, ls₁⟩
      · rfl
      cases token with
      | less =>
        change _ = Parsed.andThen (arguments stop fuel ls₁) _
        dsimp only
        cases arguments stop fuel ls₁ with
        | error f => rfl
        | ok r =>
          obtain ⟨args, ls₃⟩ := r
          rcases ls₃ with _ | ⟨⟨o', token'⟩, ls₃⟩
          · rfl
          · cases token' <;> rfl
      | _ => rfl
  · exact fun _ _ _ => hls _ _
  · exact fun _ _ _ => hls _ _
  · exact hls

theorem arguments_eq (stop fuel : Nat) (ls : List Lexeme) :
    arguments stop (fuel + 1) ls = (type stop fuel ls).andThen fun t ls₁ => match after? .comma ls₁ with
      | some ls₂ => (arguments stop fuel ls₂).andThen fun ts ls₃ => .ok (t :: ts, ls₃)
      | none => .ok ([t], ls₁) := by
  rw [arguments]
  cases type stop fuel ls with
  | error f => rfl
  | ok r =>
    obtain ⟨t, ls₁⟩ := r
    rcases ls₁ with _ | ⟨⟨o, token⟩, ls₁⟩
    · rfl
    cases token with
    | comma =>
      change _ = Parsed.andThen (arguments stop fuel ls₁) _
      dsimp only
      cases arguments stop fuel ls₁ <;> rfl
    | _ => rfl

theorem parse_eq (text : String) :
    parse text = ((type (utf8Length text.toList) (2 * (lexemes text).length + 2) (lexemes text)).andThen
      filling).map Prod.fst := by
  unfold parse
  cases type (utf8Length text.toList) (2 * (lexemes text).length + 2) (lexemes text) with
  | error f => rfl
  | ok r =>
    obtain ⟨t, ls⟩ := r
    cases ls <;> rfl

/-! ### What is left -/

theorem length_eq_of_after? {t : Token} {ls ls' : List Lexeme} (h : after? t ls = some ls') :
    ls.length = ls'.length + 1 := by
  obtain ⟨o, rfl⟩ := after?_eq_some_iff.1 h
  rfl

theorem length_le_of_tokensOf {ls rest : List Lexeme} {ts : List Token}
    (h : tokensOf ls = ts ++ tokensOf rest) : rest.length ≤ ls.length := by
  have hlength := congrArg List.length h
  rw [List.length_append, tokensOf, tokensOf, List.length_map, List.length_map] at hlength
  omega

theorem length_lt_of_firstWord {stop : Nat} {ls rest : List Lexeme} {w : String}
    (h : firstWord stop ls = .ok (w, rest)) : rest.length < ls.length := by
  unfold firstWord at h
  split at h
  · split at h
    · cases h
    · obtain ⟨-, rfl⟩ := Prod.mk.inj (Except.ok.inj h)
      exact Nat.lt_succ_self _
  · cases h

theorem length_le_of_name {stop : Nat} {ls rest : List Lexeme} {n : String}
    (h : name stop ls = .ok (n, rest)) : rest.length ≤ ls.length := by
  obtain ⟨d, -, htokens⟩ := exists_of_name_eq_ok h
  exact length_le_of_tokensOf htokens

theorem length_le_of_type {stop fuel : Nat} {ls rest : List Lexeme} {t : TypeRef}
    (h : type stop fuel ls = .ok (t, rest)) : rest.length ≤ ls.length := by
  obtain ⟨d, -, htokens⟩ := (exists_of_type_eq_ok stop fuel).1 h
  exact length_le_of_tokensOf htokens

theorem length_le_of_arguments {stop fuel : Nat} {ls rest : List Lexeme} {ts : List TypeRef}
    (h : arguments stop fuel ls = .ok (ts, rest)) : rest.length ≤ ls.length := by
  obtain ⟨d, ds, -, htokens⟩ := (exists_of_type_eq_ok stop fuel).2 h
  exact length_le_of_tokensOf htokens

end TypeText
end GroovyNew
