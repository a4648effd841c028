/-
# How many dimensions a type has

Dimensions are counted in words, and a sum that does not fit one starts again at zero.  As long as all
dimensions of the exact result are below the size of a word (`TypeRef.DimensionsBelow`), nothing is lost:
the substitution in words is the exact one (`TypeRef.apply_eq_subst`).

Whether a sum fits is not for the substitution to see.  But where no name is bound to an array there is
nothing to be added to (`TypeRef.IsFlat.dimensionsBelow_subst`), and the dimensions of a type that is written
are bounded by the length of its text, each of them taking two brackets (`TypeRef.dimensionsBelow_of_ofText`).

Words lose the same in one step as in several (`TypeRef.apply_wrapped`).  So, whether the sums fit or not,
substitutions in words compose (`TypeRef.apply_apply`), and a variable-arity parameter can be made before names
are replaced or after (`TypeRef.apply_arrayOf`).
-/

import GroovyNew.Proofs.TypeRef.Flatness
import GroovyNew.Proofs.TypeRef.Substitution

namespace GroovyNew
namespace TypeRef

variable {t : TypeRef} {s : Bindings} {m n : Nat}

/-- Each array in the type, at any depth, has fewer dimensions than that. -/
def DimensionsBelow (t : TypeRef) (n : Nat) : Prop :=
  ∀ (element : TypeRef) (dimensions : Nat), (array element dimensions).Within t → dimensions < n

theorem DimensionsBelow.mono (h : t.DimensionsBelow m) (hmn : m ≤ n) : t.DimensionsBelow n :=
  fun element dimensions hw => Nat.lt_of_lt_of_le (h element dimensions hw) hmn

/-! ### What fits a word -/

theorem wordSize_pos : 0 < wordSize := by decide

/-- Where all dimensions fit a word, nothing is lost. -/
theorem wrapped_of_dimensionsBelow : ∀ {t : TypeRef}, t.DimensionsBelow wordSize → t.wrapped = t := by
  intro t
  induction t using induct with
  | raw | id | unbounded | unknown => exact fun _ => rfl
  | generic base args ih_base ih_args =>
    intro h
    have hbase : base.wrapped = base := ih_base fun e d hw => h e d (.base hw)
    have hargs : ∀ arg ∈ args, arg.wrapped = arg := fun arg mem =>
      ih_args arg mem fun e d hw => h e d (.arg mem hw)
    rw [wrapped, wrappedList_eq_map, hbase, List.map_congr_left hargs, List.map_id']
  | array element dimensions ih =>
    intro h
    have helement : element.wrapped = element := ih fun e d hw => h e d (.element hw)
    rw [wrapped, helement, Nat.mod_eq_of_lt (h element dimensions (.self _))]
  | bounded bound isUpper ih =>
    intro h
    rw [wrapped, ih fun e d hw => h e d (.bound hw)]
  | map entries ih =>
    intro h
    have hentries : ∀ e ∈ entries, (e.1, e.2.wrapped) = e := fun e he => by
      rw [ih e.1 e.2 he fun e' d hw => h e' d (.entry he hw)]
    rw [wrapped, wrappedEntries_eq_map, List.map_congr_left hentries, List.map_id']

/-- What words hold fits a word. -/
theorem dimensionsBelow_wrapped (t : TypeRef) : t.wrapped.DimensionsBelow wordSize := by
  intro element dimensions h
  obtain ⟨p, -, hp⟩ := within_wrapped h
  cases p with
  | array e d =>
    obtain ⟨-, rfl⟩ := TypeRef.array.inj hp
    exact Nat.mod_lt d wordSize_pos
  | wildcard bound isUpper => cases bound <;> cases hp
  | _ => cases hp

/-- All dimensions fit a word exactly if nothing is lost. -/
theorem dimensionsBelow_wordSize_iff : t.DimensionsBelow wordSize ↔ t.wrapped = t :=
  ⟨wrapped_of_dimensionsBelow, fun h => h ▸ dimensionsBelow_wrapped t⟩

@[simp] theorem wrapped_wrapped (t : TypeRef) : t.wrapped.wrapped = t.wrapped :=
  wrapped_of_dimensionsBelow (dimensionsBelow_wrapped t)

/-- **Where the dimensions of the exact result fit a word, the substitution in words is exact.** -/
theorem apply_eq_subst (h : (t.subst s).DimensionsBelow wordSize) : t.apply s = t.subst s :=
  wrapped_of_dimensionsBelow h

/-! ### Sums in words -/

theorem arrayOver_of_isArray_eq_false (dimensions : Nat) (h : t.isArray = false) :
    t.arrayOver dimensions = .array t dimensions := by
  cases t with
  | array => cases h
  | _ => rfl

/-- It makes no difference whether the summands are words already. -/
theorem wrapped_arrayOver (dimensions : Nat) (t : TypeRef) :
    (t.arrayOver dimensions).wrapped = (t.wrapped.arrayOver (dimensions % wordSize)).wrapped := by
  cases hnone : t.isArray with
  | false =>
    have hwrapped : t.wrapped.isArray = false := by rw [isArray_wrapped, hnone]
    rw [arrayOver_of_isArray_eq_false _ hnone, arrayOver_of_isArray_eq_false _ hwrapped, wrapped, wrapped,
      wrapped_wrapped, Nat.mod_mod]
  | true =>
    cases t with
    | array element inner =>
      rw [arrayOver, wrapped, wrapped, arrayOver, wrapped, wrapped_wrapped, ← Nat.add_mod]
    | _ => cases hnone

theorem wrapped_arrayOf (t : TypeRef) : t.arrayOf.wrapped = t.wrapped.arrayOf.wrapped := by
  rw [arrayOf_eq_arrayOver, arrayOf_eq_arrayOver, wrapped_arrayOver, Nat.mod_eq_of_lt (by decide)]

/-- Names can be replaced in what words hold of a type as well as in the type. -/
theorem apply_wrapped (s : Bindings) (t : TypeRef) : t.wrapped.apply s = t.apply s := by
  induction t using induct with
  | raw | id | unbounded | unknown => rfl
  | generic base args ih_base ih_args =>
    rw [wrapped, apply_generic, apply_generic, ih_base, wrappedList_eq_map, List.map_map]
    exact congrArg _ (List.map_congr_left ih_args)
  | array element dimensions ih =>
    rw [wrapped, apply_array, apply_array, ih]
    cases element.apply s with
    | array inner m => exact congrArg (array inner) (Nat.mod_add_mod dimensions wordSize m)
    | _ => exact congrArg (array _) (Nat.mod_mod dimensions wordSize)
  | bounded bound isUpper ih => rw [wrapped, apply_bounded, apply_bounded, ih]
  | map entries ih =>
    rw [wrapped, apply_map, apply_map, wrappedEntries_eq_map, List.map_map]
    refine congrArg _ (List.map_congr_left fun e he => ?_)
    rw [Function.comp_apply, ih e.1 e.2 he]

/-- **Substitutions in words compose** as the exact ones do. -/
theorem apply_apply (s r : Bindings) (t : TypeRef) : (t.apply s).apply r = t.apply (s.andThen r) :=
  calc (t.apply s).apply r
    _ = (t.subst s).apply r := apply_wrapped r (t.subst s)
    _ = t.apply (s.andThen r) := congrArg wrapped (subst_subst s r t)

/-- Names can be replaced before an array type is made of a type or after. -/
theorem subst_arrayOf (s : Bindings) (t : TypeRef) : t.arrayOf.subst s = (t.subst s).arrayOf := by
  rw [arrayOf_eq_arrayOver, subst_arrayOver, ← arrayOf_eq_arrayOver]

/-- **In words, too, names can be replaced before an array type is made of a type or after.** -/
theorem apply_arrayOf (s : Bindings) (t : TypeRef) : t.arrayOf.wrapped.apply s = (t.apply s).arrayOf.wrapped := by
  rw [apply_wrapped, apply, subst_arrayOf, wrapped_arrayOf, ← apply]

/-! ### One dimension more -/

theorem DimensionsBelow.of_arrayOf (h : t.arrayOf.DimensionsBelow n) : t.DimensionsBelow n := by
  cases t with
  | array element inner =>
    intro e d hw
    cases hw with
    | self => exact Nat.lt_of_succ_lt (h element (inner + 1) (.self _))
    | element hw => exact h e d (.element hw)
  | _ => exact fun e d hw => h e d (.element hw)

theorem DimensionsBelow.arrayOf (h : t.DimensionsBelow n) (hn : 0 < n) :
    t.arrayOf.DimensionsBelow (n + 1) := by
  cases t with
  | array element inner =>
    intro e d hw
    cases hw with
    | self => exact Nat.succ_lt_succ (h element inner (.self _))
    | element hw => exact Nat.lt_succ_of_lt (h e d (.element hw))
  | _ =>
    intro e d hw
    cases hw with
    | self => exact Nat.succ_lt_succ hn
    | element hw => exact Nat.lt_succ_of_lt (h e d hw)

/-- Where an array over a type fits a word after names are replaced, so does the type. -/
theorem dimensionsBelow_arrayOf_apply (h : (t.arrayOf.subst s).DimensionsBelow wordSize) :
    t.apply s = t.subst s ∧ (t.apply s).arrayOf.DimensionsBelow wordSize := by
  rw [subst_arrayOf] at h
  have heq : t.apply s = t.subst s := apply_eq_subst h.of_arrayOf
  exact ⟨heq, heq ▸ h⟩

/-! ### Nothing to add -/

theorem isArray_subst_eq_false (hs : s.Each fun u => u.isArray = false) (h : t.isArray = false) :
    (t.subst s).isArray = false := by
  cases t with
  | raw name | id name => exact hs.getD name h
  | array => cases h
  | wildcard bound isUpper => cases bound <;> rfl
  | _ => rfl

/-- **Where no name is bound to an array, replacing names adds no dimensions.** -/
theorem IsFlat.dimensionsBelow_subst (ht : t.IsFlat) (hd : t.DimensionsBelow n)
    (hs : s.Each fun u => u.isArray = false ∧ u.DimensionsBelow n) : (t.subst s).DimensionsBelow n := by
  have hnone : s.Each fun u => u.isArray = false := fun name u hu => (hs name u hu).1
  intro element dimensions hw
  obtain ⟨name, u, hu, hw⟩ | ⟨p, hp, heq⟩ := within_subst hw
  · exact (hs name u hu).2 element dimensions hw
  · cases hpart : p.isArray with
    | false =>
      have hpart' := isArray_subst_eq_false hnone hpart
      rw [heq] at hpart'
      cases hpart'
    | true =>
      cases p with
      | array inner m =>
        have hinner := isArray_subst_eq_false hnone (ht inner m hp).2
        rw [TypeRef.subst, arrayOver_of_isArray_eq_false m hinner] at heq
        obtain ⟨-, rfl⟩ := TypeRef.array.inj heq
        exact hd inner m hp
      | _ => cases hpart

/-- Resolving names adds no dimensions. -/
theorem DimensionsBelow.normalize (h : t.DimensionsBelow n) (typeName? : String → Option String)
    (typeParameters : List String) : (t.normalize typeName? typeParameters).DimensionsBelow n := by
  intro element dimensions hw
  obtain ⟨e, he, -⟩ := exists_of_array_within_normalize typeName? typeParameters hw
  exact h e dimensions he

end TypeRef

/-! ### Types that are written -/

namespace TypeText

theorem length_bracketTokens (n : Nat) : (bracketTokens n).length = 2 * n := by
  induction n with
  | zero => rfl
  | succ n ih =>
    rw [bracketTokens, List.length_cons, List.length_cons, ih]
    omega

/-- The tokens of a type are among those of the types that it is one of. -/
theorem length_le_of_mem_separated {type : List Token} {types : List (List Token)} (h : type ∈ types) :
    type.length ≤ (separated types).length := by
  induction types with
  | nil => cases h
  | cons first types ih =>
    cases types with
    | nil =>
      obtain rfl := List.mem_singleton.1 h
      exact Nat.le_of_eq (congrArg List.length (separated_singleton type).symm)
    | cons second types =>
      rw [separated_cons_cons, List.length_append, List.length_cons]
      obtain rfl | h := List.mem_cons.1 h
      · omega
      · have hle := ih h
        omega

theorem length_le_of_mem_angled {type : List Token} {types : List (List Token)} (h : type ∈ types) :
    type.length ≤ (angled types).length := by
  have hle := length_le_of_mem_separated h
  cases types with
  | nil => cases h
  | cons first types =>
    rw [angled_cons, List.length_cons, List.length_append]
    omega

/-- What stands in an array type over an element is the array or stands in the element. -/
theorem within_withDimensions {part element : TypeRef} {n : Nat}
    (h : part.Within (element.withDimensions n)) : part = .array element n ∨ part.Within element := by
  cases n with
  | zero => exact .inr h
  | succ n =>
    cases h with
    | self => exact .inl rfl
    | element h => exact .inr h

/-- Each dimension in the type of a tree has two of its tokens. -/
theorem Derivation.two_mul_lt_length_tokens {element : TypeRef} {dimensions : Nat} (d : Derivation)
    (h : (TypeRef.array element dimensions).Within d.typeRef) : 2 * dimensions < d.tokens.length := by
  induction d using Derivation.induct with
  | wildcard => cases h
  | bounded isUpper bound ih =>
    cases h with
    | bound h =>
      have hbound := ih h
      rw [tokens, List.length_cons, List.length_cons]
      omega
  | named name args n ih =>
    have hname : 1 ≤ name.tokens.length := Nat.le_add_left 1 _
    rw [tokens, tokensEach_eq_map, List.length_append, List.length_append, length_bracketTokens]
    rw [typeRef, typeRefEach_eq_map] at h
    obtain heq | h := within_withDimensions h
    · obtain ⟨-, rfl⟩ := TypeRef.array.inj heq
      omega
    · cases args with
      | nil => exact absurd h (name.isName_typeRef.not_within_array element dimensions)
      | cons arg args =>
        cases h with
        | base h => exact absurd h (name.isName_typeRef.not_within_array element dimensions)
        | arg mem h =>
          obtain ⟨a, ha, rfl⟩ := List.mem_map.1 mem
          have hlt := ih a ha h
          have hle := length_le_of_mem_angled (List.mem_map_of_mem (f := tokens) ha)
          omega

end TypeText

namespace TypeRef

/-- **The dimensions of a type that is written are bounded by the length of its text.** -/
theorem dimensionsBelow_of_ofText {text : String} {t : TypeRef} {n : Nat} (h : ofText text = .ok t)
    (hn : text.utf8ByteSize ≤ 2 * n) : t.DimensionsBelow n := by
  intro element dimensions hw
  obtain ⟨d, hd, rfl⟩ := TypeText.exists_of_ofText_eq_ok h
  have hdimensions := d.two_mul_lt_length_tokens hw
  have hlength := TypeText.Spells.length_le hd
  rw [TypeText.utf8Length_toList] at hlength
  omega

end TypeRef
end GroovyNew
