/-
# Types that are shaped like type texts

A type is *source shaped* (`TypeRef.IsSourceShaped`) if it is put together as type texts are:

| part | what it may be |
| --- | --- |
| name | identifiers joined by dots; raw for the primitives and `void`, and for no other name |
| generic type | at least one argument, over a name |
| array | at least one dimension, over a name or a generic type |
| wildcard | any bound; without a bound it is an upper one |

The definition speaks of types alone.  Here it is tied to the grammar: source-shaped types are the types
of the derivation trees whose words are identifiers (`TypeText.Derivation.IsWritten`), which are the
trees of texts.

Not every type is of this kind.  Resolution builds map literals, which have no type text, and a reader of
JSON may be given an array of wildcards, whose text is that of a wildcard of arrays.
-/

import GroovyNew.Proofs.TypeRef.Parsing

namespace GroovyNew

namespace Text

/-- An identifier: characters of identifiers, at least one, and no ASCII digit in front. -/
structure IsIdentifier (word : String) : Prop where
  ne_nil : word.toList ≠ []
  isWordChar : ∀ c ∈ word.toList, isWordChar c = true
  not_digit : ∀ c ∈ word.toList.head?, c.isDigit = false

theorem isIdentifier_iff {word : String} : IsIdentifier word ↔
    (!word.toList.isEmpty && word.toList.all isWordChar && !word.toList.head?.any Char.isDigit) = true := by
  have hdigit : (!word.toList.head?.any Char.isDigit) = true ↔
      ∀ c ∈ word.toList.head?, c.isDigit = false := by
    cases word.toList.head? <;> simp
  rw [Bool.and_eq_true, Bool.and_eq_true, hdigit, List.all_eq_true, Bool.not_eq_true',
    List.isEmpty_eq_false_iff]
  exact ⟨fun h => ⟨⟨h.ne_nil, h.isWordChar⟩, h.not_digit⟩, fun h => ⟨h.1.1, h.1.2, h.2⟩⟩

instance (word : String) : Decidable (IsIdentifier word) := decidable_of_iff _ isIdentifier_iff.symm

/-- A dotted name: identifiers joined by dots, at least one. -/
def IsDottedName (name : String) : Prop :=
  ∃ words, words ≠ [] ∧ (∀ word ∈ words, IsIdentifier word) ∧ name = String.intercalate "." words

theorem IsIdentifier.isDottedName {word : String} (h : IsIdentifier word) : IsDottedName word :=
  ⟨[word], List.cons_ne_nil word [], List.forall_mem_singleton.2 h, String.intercalate_singleton.symm⟩

end Text

namespace TypeRef

/-- A name that may be given type arguments. -/
def IsName : TypeRef → Prop
  | .raw _ | .id _ => True
  | _ => False

/-- A name or a generic type, which may be followed by brackets. -/
def IsNameOrGeneric : TypeRef → Prop
  | .raw _ | .id _ | .generic .. => True
  | _ => False

theorem IsName.isNameOrGeneric {t : TypeRef} (h : t.IsName) : t.IsNameOrGeneric := by
  cases t with
  | raw | id => trivial
  | _ => exact h.elim

/-- The type is put together as type texts are. -/
inductive IsSourceShaped : TypeRef → Prop
  /-- A primitive or `void`. -/
  | raw {name : String} (mem : name ∈ TypeText.rawNames) : IsSourceShaped (.raw name)
  /-- Any other name. -/
  | id {name : String} (dotted : Text.IsDottedName name) (not_mem : name ∉ TypeText.rawNames) :
    IsSourceShaped (.id name)
  /-- A name with type arguments. -/
  | generic {base : TypeRef} {args : List TypeRef} (base_shaped : base.IsSourceShaped)
    (base_name : base.IsName) (args_ne_nil : args ≠ [])
    (args_shaped : ∀ arg ∈ args, arg.IsSourceShaped) : IsSourceShaped (.generic base args)
  /-- An array of a name or a generic type. -/
  | array {element : TypeRef} {dimensions : Nat} (element_shaped : element.IsSourceShaped)
    (element_flat : element.IsNameOrGeneric) (pos : 1 ≤ dimensions) :
    IsSourceShaped (.array element dimensions)
  /-- A wildcard without bound. -/
  | unbounded : IsSourceShaped (.wildcard none true)
  /-- A wildcard with an upper or a lower bound. -/
  | bounded {bound : TypeRef} (isUpper : Bool) (bound_shaped : bound.IsSourceShaped) :
    IsSourceShaped (.wildcard (some bound) isUpper)

end TypeRef

namespace TypeText

/-! ### Trees whose words are identifiers -/

/-- The tree is that of some text: its words have characters, identifier characters only. -/
def Derivation.IsWritten (d : Derivation) : Prop := ∀ t ∈ d.tokens, t.IsProper

/-- The words of the name have characters, identifier characters only. -/
def DottedName.IsWritten (name : DottedName) : Prop := ∀ t ∈ name.tokens, t.IsProper

theorem isProper_of_spells {tokens : List Token} {cs : List Char} (h : Spells tokens cs) :
    ∀ t ∈ tokens, t.IsProper := by
  induction h with
  | nil => exact fun _ ht => absurd ht List.not_mem_nil
  | blank _ _ ih => exact ih
  | token hproper _ _ ih => exact List.forall_mem_cons.2 ⟨hproper, ih⟩

theorem DottedName.isWritten_iff {name : DottedName} :
    name.IsWritten ↔ ∀ i ∈ name.first :: name.others, Text.IsIdentifier i.text := by
  have hword : ∀ i : Identifier, (Token.word i.text).IsProper ↔ Text.IsIdentifier i.text := fun i =>
    ⟨fun h => ⟨h.1, h.2, i.not_digit⟩, fun h => ⟨h.ne_nil, h.isWordChar⟩⟩
  have hdot : Token.dot.IsProper := trivial
  simp only [IsWritten, tokens, List.forall_mem_cons, List.forall_mem_flatMap, List.not_mem_nil,
    false_implies, implies_true, hword, hdot, true_and, and_true]

/-- The text of a name of a text is a dotted name. -/
theorem DottedName.IsWritten.isDottedName {name : DottedName} (h : name.IsWritten) :
    Text.IsDottedName name.text := by
  refine ⟨(name.first :: name.others).map Identifier.text, by simp, ?_, rfl⟩
  rw [List.forall_mem_map]
  exact isWritten_iff.1 h

/-- A dotted name is the text of a name. -/
theorem exists_of_isDottedName {text : String} (h : Text.IsDottedName text) :
    ∃ name : DottedName, name.IsWritten ∧ name.text = text := by
  obtain ⟨words, hne, hwords, rfl⟩ := h
  obtain ⟨word, words, rfl⟩ := List.exists_cons_of_ne_nil hne
  rw [List.forall_mem_cons] at hwords
  let first : Identifier := ⟨word, hwords.1.not_digit⟩
  let others : List Identifier := words.attach.map fun w => ⟨w.1, (hwords.2 w.1 w.2).not_digit⟩
  have hothers : others.map Identifier.text = words := by
    rw [List.map_map]
    exact words.attach_map_subtype_val
  refine ⟨⟨first, others⟩, DottedName.isWritten_iff.2 ?_, ?_⟩
  · rw [List.forall_mem_cons]
    refine ⟨hwords.1, ?_⟩
    have hmap : ∀ text ∈ others.map Identifier.text, Text.IsIdentifier text := by
      rw [hothers]
      exact hwords.2
    exact List.forall_mem_map.1 hmap
  · rw [DottedName.text, List.map_cons, hothers]

/-- The names that denote no class are identifiers. -/
theorem isIdentifier_of_mem_rawNames {name : String} (h : name ∈ rawNames) :
    Text.IsIdentifier name := by
  have hall : (rawNames.all fun name => Text.IsIdentifier name) = true := by decide +kernel
  exact of_decide_eq_true (List.all_eq_true.1 hall name h)

/-! ### The words of a tree -/

theorem forall_isProper_separated {types : List (List Token)} :
    (∀ t ∈ separated types, t.IsProper) ↔ ∀ type ∈ types, ∀ t ∈ type, t.IsProper := by
  induction types with
  | nil => simp [separated]
  | cons type types ih =>
    cases types with
    | nil => simp
    | cons type' types =>
      have hcomma : Token.comma.IsProper := trivial
      rw [separated_cons_cons, List.forall_mem_append, List.forall_mem_cons, ih]
      simp only [hcomma, true_and, List.forall_mem_cons]

theorem forall_isProper_angled {types : List (List Token)} :
    (∀ t ∈ angled types, t.IsProper) ↔ ∀ type ∈ types, ∀ t ∈ type, t.IsProper := by
  cases types with
  | nil => simp [angled]
  | cons type types =>
    have hless : Token.less.IsProper := trivial
    have hgreater : Token.greater.IsProper := trivial
    rw [angled_cons, List.forall_mem_cons, List.forall_mem_append, forall_isProper_separated]
    simp only [hless, hgreater, true_and, List.forall_mem_singleton, and_true]

theorem isProper_of_mem_bracketTokens (n : Nat) : ∀ t ∈ bracketTokens n, t.IsProper := by
  induction n with
  | zero => exact fun _ ht => absurd ht List.not_mem_nil
  | succ n ih =>
    rw [bracketTokens, List.forall_mem_cons, List.forall_mem_cons]
    exact ⟨trivial, trivial, ih⟩

namespace Derivation

theorem isWritten_wildcard : wildcard.IsWritten := by
  unfold IsWritten
  rw [tokens, List.forall_mem_singleton]
  trivial

theorem isWritten_bounded_iff {isUpper : Bool} {bound : Derivation} :
    (bounded isUpper bound).IsWritten ↔ bound.IsWritten := by
  have hidentifier : Text.IsIdentifier (keyword isUpper) := by
    cases isUpper <;> decide +kernel
  have hkeyword : (Token.word (keyword isUpper)).IsProper :=
    ⟨hidentifier.ne_nil, hidentifier.isWordChar⟩
  have hquestion : Token.question.IsProper := trivial
  unfold IsWritten
  rw [tokens, List.forall_mem_cons, List.forall_mem_cons]
  simp only [hkeyword, hquestion, true_and]

theorem isWritten_named_iff {name : DottedName} {args : List Derivation} {dimensions : Nat} :
    (named name args dimensions).IsWritten ↔ name.IsWritten ∧ ∀ arg ∈ args, arg.IsWritten := by
  unfold IsWritten
  rw [tokens, tokensEach_eq_map, List.forall_mem_append, List.forall_mem_append, forall_isProper_angled,
    List.forall_mem_map]
  exact ⟨fun h => h.1, fun h => ⟨h, isProper_of_mem_bracketTokens dimensions⟩⟩

end Derivation

/-! ### The types of trees are source shaped -/

theorem DottedName.isName_typeRef (name : DottedName) : name.typeRef.IsName := by
  unfold typeRef
  split <;> trivial

theorem DottedName.IsWritten.isSourceShaped {name : DottedName} (h : name.IsWritten) :
    name.typeRef.IsSourceShaped := by
  unfold DottedName.typeRef
  split
  · rename_i hraw
    exact .raw hraw
  · rename_i hraw
    exact .id h.isDottedName hraw

theorem DottedName.isNameOrGeneric_applied (name : DottedName) (args : List TypeRef) :
    (name.typeRef.applied args).IsNameOrGeneric := by
  cases args with
  | nil =>
    unfold typeRef
    split <;> trivial
  | cons arg args => trivial

/-- The type of a tree whose words are identifiers is source shaped. -/
theorem Derivation.IsWritten.isSourceShaped {d : Derivation} (h : d.IsWritten) :
    d.typeRef.IsSourceShaped := by
  induction d using Derivation.induct with
  | wildcard => exact .unbounded
  | bounded isUpper bound ih => exact .bounded isUpper (ih (isWritten_bounded_iff.1 h))
  | named name args dimensions ih =>
    obtain ⟨hname, hargs⟩ := isWritten_named_iff.1 h
    have helement : (name.typeRef.applied (args.map typeRef)).IsSourceShaped := by
      cases args with
      | nil => exact hname.isSourceShaped
      | cons arg args =>
        refine .generic hname.isSourceShaped name.isName_typeRef (by simp) ?_
        rw [List.forall_mem_map]
        exact fun d hd => ih d hd (hargs d hd)
    rw [typeRef, typeRefEach_eq_map]
    cases dimensions with
    | zero => exact helement
    | succ n => exact .array helement (name.isNameOrGeneric_applied _) (Nat.le_add_left 1 n)

/-- A name or a generic type is that of a tree without brackets. -/
theorem exists_of_isNameOrGeneric {d : Derivation} (hd : d.IsWritten)
    (hflat : d.typeRef.IsNameOrGeneric) :
    ∃ (name : DottedName) (args : List Derivation), name.IsWritten ∧ (∀ arg ∈ args, arg.IsWritten) ∧
      d.typeRef = name.typeRef.applied (args.map Derivation.typeRef) := by
  cases d with
  | wildcard => exact hflat.elim
  | bounded isUpper bound => exact hflat.elim
  | named name args dimensions =>
    obtain ⟨hname, hargs⟩ := Derivation.isWritten_named_iff.1 hd
    rw [Derivation.typeRef, Derivation.typeRefEach_eq_map] at hflat ⊢
    cases dimensions with
    | zero => exact ⟨name, args, hname, hargs, rfl⟩
    | succ n => exact hflat.elim

/-- A name is that of a tree without arguments and brackets. -/
theorem exists_of_isName {d : Derivation} (hd : d.IsWritten) (hname : d.typeRef.IsName) :
    ∃ name : DottedName, name.IsWritten ∧ d.typeRef = name.typeRef := by
  obtain ⟨name, args, hwritten, -, htype⟩ := exists_of_isNameOrGeneric hd hname.isNameOrGeneric
  rw [htype] at hname
  cases args with
  | nil => exact ⟨name, hwritten, htype⟩
  | cons arg args => exact hname.elim

/-- A list of source-shaped types is that of a list of trees. -/
theorem exists_map_typeRef {ts : List TypeRef}
    (h : ∀ t ∈ ts, ∃ d : Derivation, d.IsWritten ∧ d.typeRef = t) :
    ∃ ds : List Derivation, (∀ d ∈ ds, d.IsWritten) ∧ ds.map Derivation.typeRef = ts := by
  induction ts with
  | nil => exact ⟨[], by simp, rfl⟩
  | cons t ts ih =>
    rw [List.forall_mem_cons] at h
    obtain ⟨⟨d, hd, rfl⟩, hts⟩ := h
    obtain ⟨ds, hds, rfl⟩ := ih hts
    exact ⟨d :: ds, List.forall_mem_cons.2 ⟨hd, hds⟩, rfl⟩

/-- A source-shaped type is that of a tree whose words are identifiers. -/
theorem exists_of_isSourceShaped {t : TypeRef} (h : t.IsSourceShaped) :
    ∃ d : Derivation, d.IsWritten ∧ d.typeRef = t := by
  induction h with
  | raw mem =>
    obtain ⟨name, hname, rfl⟩ := exists_of_isDottedName (isIdentifier_of_mem_rawNames mem).isDottedName
    exact ⟨.named name [] 0, Derivation.isWritten_named_iff.2 ⟨hname, by simp⟩, if_pos mem⟩
  | id dotted not_mem =>
    obtain ⟨name, hname, rfl⟩ := exists_of_isDottedName dotted
    exact ⟨.named name [] 0, Derivation.isWritten_named_iff.2 ⟨hname, by simp⟩, if_neg not_mem⟩
  | generic base_shaped base_name args_ne_nil args_shaped ih_base ih_args =>
    obtain ⟨d, hd, rfl⟩ := ih_base
    obtain ⟨name, hname, htype⟩ := exists_of_isName hd base_name
    obtain ⟨args, hargs, rfl⟩ := exists_map_typeRef ih_args
    refine ⟨.named name args 0, Derivation.isWritten_named_iff.2 ⟨hname, hargs⟩, ?_⟩
    rw [htype, Derivation.typeRef, Derivation.typeRefEach_eq_map]
    cases args with
    | nil => exact absurd rfl args_ne_nil
    | cons arg args => rfl
  | array element_shaped element_flat pos ih =>
    obtain ⟨d, hd, rfl⟩ := ih
    obtain ⟨name, args, hname, hargs, htype⟩ := exists_of_isNameOrGeneric hd element_flat
    obtain ⟨n, rfl⟩ := Nat.exists_eq_add_of_le' pos
    refine ⟨.named name args (n + 1), Derivation.isWritten_named_iff.2 ⟨hname, hargs⟩, ?_⟩
    rw [htype, Derivation.typeRef, Derivation.typeRefEach_eq_map]
    rfl
  | unbounded => exact ⟨.wildcard, Derivation.isWritten_wildcard, rfl⟩
  | bounded isUpper bound_shaped ih =>
    obtain ⟨d, hd, rfl⟩ := ih
    exact ⟨.bounded isUpper d, Derivation.isWritten_bounded_iff.2 hd, rfl⟩

end TypeText
end GroovyNew
