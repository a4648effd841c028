/-
# The element type of a variable-arity parameter

The parameter `T... x` is kept as one of the array type over `T` (`ParameterInfo.varargs`).  Matching
arguments takes the dimension off again (`TypeRef.element?`), and so does a signature, in its own way
(`ParameterInfo.elementText`).  Between them the type parameters are replaced, which may turn `T` into an
array and merge its dimensions with the one that stands for the dots.

Replacing names in the array over `T` is building the array over what becomes of `T`
(`TypeRef.apply_arrayOf`), so that the parameter of a candidate is once more a variable-arity parameter, of
the element type with the names replaced (`ParameterInfo.subst_varargs`).  The element type can be told
from the array as long as no type has the form of an array without dimensions (`TypeRef.HasDimensions`) and
the dimensions fit a word.  Where they do not, there may be none left to take off
(`ConstructorCandidate.not_varargs_survive_wordSize`).
-/

import GroovyNew.Proofs.Constructors.ParameterTypes

namespace GroovyNew

namespace TypeRef

/-- The type is no array without dimensions. -/
def HasDimensions (t : TypeRef) : Prop := ∀ element, t ≠ .array element 0

variable {t : TypeRef} {s : Bindings}

theorem IsFlat.hasDimensions (h : t.IsFlat) : t.HasDimensions := by
  rintro element rfl
  exact absurd (isFlat_array_iff.1 h).1.1 (Nat.not_succ_le_zero 0)

/-- Replacing names takes no dimensions away. -/
theorem HasDimensions.subst (h : t.HasDimensions) (hs : s.Each HasDimensions) :
    (t.subst s).HasDimensions := by
  cases t with
  | raw name | id name => exact hs.getD name h
  | array element dimensions =>
    have hne : dimensions ≠ 0 := fun hzero => h element (hzero ▸ rfl)
    rw [TypeRef.subst]
    intro e
    cases element.subst s with
    | array inner m =>
      intro heq
      exact hne (Nat.add_eq_zero_iff.1 (TypeRef.array.inj heq).2).1
    | _ => exact fun heq => hne (TypeRef.array.inj heq).2
  | wildcard bound isUpper =>
    intro e heq
    cases bound <;> cases heq
  | _ =>
    intro e heq
    cases heq

/-- The array type over a type has a dimension. -/
theorem exists_arrayOf_eq (t : TypeRef) :
    ∃ element dimensions, t.arrayOf = .array element dimensions ∧ 1 ≤ dimensions := by
  cases t with
  | array element dimensions => exact ⟨element, dimensions + 1, rfl, Nat.le_add_left 1 dimensions⟩
  | _ => exact ⟨_, 1, rfl, Nat.le_refl 1⟩

end TypeRef

namespace ParameterInfo

/-- **A variable-arity parameter stays one**, of what becomes of its element type. -/
theorem subst_varargs (s : Bindings) (name : String) (t : TypeRef) :
    (varargs name t).subst s = varargs name (t.apply s) := by
  rw [varargs, subst, TypeRef.apply_arrayOf, varargs]

/-- A parameter has a text if there is a dimension to be left out. -/
theorem isWritable_of_exists_array {p : ParameterInfo} (hp : p.isVarargs = true →
    ∃ element dimensions, p.type = .array element dimensions ∧ 1 ≤ dimensions) : p.isWritable = true := by
  unfold isWritable
  split
  · rename_i hv htype
    obtain ⟨element, dimensions, harray, hpos⟩ := hp hv
    obtain ⟨-, rfl⟩ := TypeRef.array.inj (htype.symm.trans harray)
    exact decide_eq_true hpos
  · rfl

variable {t : TypeRef} (h : t.arrayOf.DimensionsBelow wordSize) (name : String)
include h

theorem type_varargs : (varargs name t).type = t.arrayOf := TypeRef.wrapped_of_dimensionsBelow h

/-- A variable-arity parameter is written with the element type that it was made of. -/
theorem toText_varargs : (varargs name t).toText = t.toText ++ "... " ++ name := by
  have helement : (varargs name t).elementText = t.toText := by
    rw [elementText, type_varargs h name]
    cases t with
    | array element dimensions => rfl
    | _ => exact String.append_empty
  rw [toText, helement]
  rfl

end ParameterInfo

namespace ClassIndex

variable {ds : List ClassDecl} {index : ClassIndex} (h : ofDecls ds = .ok index)
  (hds : ∀ d ∈ ds, d.FitsMemory) {fqn : String} {member : MemberInfo}
  (hmember : member ∈ index.constructors fqn) {q : ParameterInfo} (hq : q ∈ member.parameters.getD [])
  (hv : q.isVarargs = true)
include h hds hmember hq hv

/-- A variable-arity parameter in an index of declarations is made of a flat element type. -/
theorem exists_varargs_of_mem_parameters :
    ∃ t : TypeRef, t.IsFlat ∧ q.type = t.arrayOf ∧ q = .varargs q.name t := by
  obtain ⟨t, hflat, harray, htype⟩ := exists_type_of_mem_parameters h hds hmember hq
  rw [if_pos hv] at htype
  refine ⟨t, hflat, htype, ?_⟩
  rw [ParameterInfo.varargs, TypeRef.wrapped_of_dimensionsBelow harray, ← htype, ← hv]

/-- A variable-arity parameter in an index of declarations has a dimension after names are replaced, if the
dimensions fit a word. -/
theorem exists_array_of_mem_parameters {s : Bindings}
    (hfits : (q.type.subst s).DimensionsBelow wordSize) :
    ∃ element dimensions, (q.subst s).type = .array element dimensions ∧ 1 ≤ dimensions := by
  obtain ⟨t, -, htype, hvarargs⟩ := exists_varargs_of_mem_parameters h hds hmember hq hv
  rw [htype] at hfits
  rw [hvarargs, ParameterInfo.subst_varargs,
    ParameterInfo.type_varargs (TypeRef.dimensionsBelow_arrayOf_apply hfits).2]
  exact TypeRef.exists_arrayOf_eq (t.apply s)

end ClassIndex

namespace ConstructorCandidate

open ClassIndex

/-- The variable-arity parameter of a constructor keeps its place among those of a candidate. -/
theorem declared_ofMember {member : MemberInfo} {before after : List ParameterInfo} {name : String}
    {t : TypeRef} (h : member.parameters = some (before ++ .varargs name t :: after)) (s : Bindings)
    (enclosing : Option TypeRef) : (ofMember member s enclosing).declared =
      before.map (·.subst s) ++ .varargs name (t.apply s) :: after.map (·.subst s) := by
  rw [ofMember, h, Option.getD_some, List.map_append, List.map_cons, ParameterInfo.subst_varargs]

/-- Memory holds the signature of parameters that have a text, unless it is too long. -/
theorem signature?_of_all {c : ConstructorCandidate} (hall : ∀ p ∈ c.declared, p.isWritable = true)
    (hlength : c.signature.utf8ByteSize < textLimit) : c.signature? = some c.signature := by
  rw [signature?, List.all_eq_true.2 hall, decide_eq_true hlength]
  rfl

/-- **The element type of a variable-arity parameter survives substitution and printing**, unless the
dimensions do not fit a word.  The parameter `T... x` of a constructor becomes a parameter of a candidate that
has an array type, the element type of which is `T` with the names replaced; and the signature has that type
before the dots and the name.  This holds for all types, `T` and those that names are bound to, that are no
arrays without dimensions, as long as the dimensions of the array over the exact result fit a word.

All variable-arity parameters in an index of declarations are made of such element types.  Whatever the
names are bound to, a candidate has a dimension there to be taken off, if the dimensions fit; and they do for
all candidates of the classes that references denote. -/
theorem varargs_survive :
    (∀ (member : MemberInfo) (s : Bindings) (enclosing : Option TypeRef)
        (before after : List ParameterInfo) (name : String) (t : TypeRef),
      member.parameters = some (before ++ .varargs name t :: after) →
      t.HasDimensions → s.Each TypeRef.HasDimensions → (t.arrayOf.subst s).DimensionsBelow wordSize →
      ∃ p : ParameterInfo,
        (ofMember member s enclosing).declared =
            before.map (·.subst s) ++ p :: after.map (·.subst s) ∧
          p.name = name ∧ p.isVarargs = true ∧ p.type.isArray = true ∧
          p.type.element? = some (t.apply s) ∧
          (ofMember member s enclosing).signature = member.name ++ "(" ++ String.intercalate ", "
            (before.map (fun q => (q.subst s).toText) ++
              ((t.apply s).toText ++ "... " ++ name) :: after.map fun q => (q.subst s).toText) ++ ")" ∧
          ((∀ q ∈ before ++ after, (q.subst s).isWritable = true) →
            (ofMember member s enclosing).signature.utf8ByteSize < textLimit →
            (ofMember member s enclosing).signature? = some (ofMember member s enclosing).signature)) ∧
    ∀ (ds : List ClassDecl) (index : ClassIndex), ofDecls ds = .ok index → (∀ d ∈ ds, d.FitsMemory) →
      (∀ fqn, ∀ member ∈ index.constructors fqn, ∀ (s : Bindings) (enclosing : Option TypeRef),
        ∀ p ∈ (ofMember member s enclosing).effective, p.isVarargs = true →
          ∃ t : TypeRef, t.HasDimensions ∧ .varargs p.name t ∈ member.parameters.getD [] ∧
            p = .varargs p.name (t.apply s) ∧
            ((t.arrayOf.subst s).DimensionsBelow wordSize →
              ∃ element dimensions, p.type = .array element dimensions ∧ 1 ≤ dimensions)) ∧
      ∀ ctx r, ∀ c ∈ ReferenceResult.candidates (index.typeSystem.resolveReference ctx r),
        ∀ k ∈ index.typeSystem.constructorCandidates c,
          (∀ p ∈ k.effective, p.isVarargs = true →
            ∃ element dimensions, p.type = .array element dimensions ∧ 1 ≤ dimensions) ∧
          (k.signature.utf8ByteSize < textLimit → k.signature? = some k.signature) := by
  refine ⟨fun member s enclosing before after name t hmember ht hs hfits => ?_,
    fun ds index h hds => ⟨fun fqn member hmember s enclosing p hp hv => ?_, fun ctx r c hc k hk => ?_⟩⟩
  · obtain ⟨heq, harray⟩ := TypeRef.dimensionsBelow_arrayOf_apply hfits
    have hdeclared := declared_ofMember hmember s enclosing
    have htype : (ParameterInfo.varargs name (t.apply s)).type = (t.apply s).arrayOf :=
      ParameterInfo.type_varargs harray name
    refine ⟨.varargs name (t.apply s), hdeclared, rfl, rfl, ?_, ?_, ?_, fun hothers => ?_⟩
    · rw [htype, TypeRef.isArray_arrayOf]
    · rw [htype, TypeRef.element?_arrayOf]
      exact heq ▸ ht.subst hs
    · rw [signature, hdeclared, List.map_append, List.map_cons, ParameterInfo.toText_varargs harray,
        List.map_map, List.map_map]
      rfl
    · refine signature?_of_all ?_
      have hself : (ParameterInfo.varargs name (t.apply s)).isWritable = true :=
        ParameterInfo.isWritable_of_exists_array fun _ => htype ▸ TypeRef.exists_arrayOf_eq (t.apply s)
      rw [List.forall_mem_append] at hothers
      rw [hdeclared, List.forall_mem_append, List.forall_mem_cons, List.forall_mem_map,
        List.forall_mem_map]
      exact ⟨hothers.1, hself, hothers.2⟩
  · obtain ⟨_, -, rfl⟩ | ⟨q, hq, rfl⟩ := mem_effective_ofMember_iff.1 hp
    · cases hv
    · obtain ⟨t, hflat, htype, hvarargs⟩ := exists_varargs_of_mem_parameters h hds hmember hq hv
      have hsubst : q.subst s = .varargs q.name (t.apply s) := by
        rw [hvarargs, ParameterInfo.subst_varargs]
        rfl
      exact ⟨t, hflat.hasDimensions, hvarargs ▸ hq, hsubst, fun hfits =>
        exists_array_of_mem_parameters h hds hmember hq hv (htype ▸ hfits)⟩
  · obtain ⟨member, hmember, rfl⟩ := List.mem_map.1 hk
    have harray : ∀ q ∈ member.parameters.getD [], q.isVarargs = true →
        ∃ element dimensions, (q.subst c.erasure).type = .array element dimensions ∧ 1 ≤ dimensions :=
      fun q hq hv => exists_array_of_mem_parameters h hds hmember hq hv
        (dimensionsBelow_of_mem_candidates h hds hc hmember hq)
    refine ⟨fun p hp hv => ?_, signature?_of_all fun p hp => ?_⟩
    · obtain ⟨_, -, rfl⟩ | ⟨q, hq, rfl⟩ := mem_effective_ofMember_iff.1 hp
      · cases hv
      · exact harray q hq hv
    · obtain ⟨q, hq, rfl⟩ := List.mem_map.1 hp
      exact ParameterInfo.isWritable_of_exists_array (harray q hq)

/-- `class Joiner<T>` with the constructor `Joiner(String separator, T[]... parts)`. -/
def joiner : List ClassDecl :=
  [{ fqn := "p.Joiner"
     typeParameters := ["T"]
     constructors :=
      [{ parameters :=
          [{ name := "separator", type := "String" },
            { name := "parts", type := "T[]", varargs := true }] }] }]

/-- The constructor of `Joiner`. -/
def joinerMember : MemberInfo where
  name := "Joiner"
  fqn := "p.Joiner#Joiner(java.lang.String,T[][])"
  kind := .constructor
  declaringType := "p.Joiner"
  type := .id "p.Joiner"
  parameters :=
    some ([{ name := "separator", type := .id TypeRef.stringName }] ++
      [.varargs "parts" (.array (.id "T") 1)])

/-- `T` bound to `int[]`. -/
def intArrays : Bindings := ⟨[("T", .array (.raw "int") 1)]⟩

/-- A place in the package. -/
def joinerPlace : Context where
  package := some "p"

/-- Where `T` is `int[]`, the parameter `T[]... parts` has the element type `int[][]`; and each candidate for
`Joiner<String>` has a signature. -/
theorem varargs_survive_joiner : ∃ index, ofDecls joiner = .ok index ∧ (∀ d ∈ joiner, d.FitsMemory) ∧
    joinerMember ∈ index.constructors "p.Joiner" ∧
    TypeRef.HasDimensions (.array (.id "T") 1) ∧ intArrays.Each TypeRef.HasDimensions ∧
    ((TypeRef.array (.id "T") 1).arrayOf.subst intArrays).DimensionsBelow wordSize ∧
    (∃ p ∈ (ofMember joinerMember intArrays none).declared,
      p.type.element? = some (.array (.raw "int") 2)) ∧
    (ofMember joinerMember intArrays none).signature? =
      some "Joiner(java.lang.String separator, int[][]... parts)" ∧
    (∀ p ∈ (ofMember joinerMember intArrays none).effective, p.isVarargs = true →
      ∃ t : TypeRef, .varargs p.name t ∈ joinerMember.parameters.getD [] ∧
        p = .varargs p.name (t.apply intArrays)) ∧
    (ReferenceResult.candidates
      (index.typeSystem.resolveReference joinerPlace ⟨"Joiner", [⟨"String", []⟩]⟩)).length = 1 ∧
    ∀ c ∈ ReferenceResult.candidates
        (index.typeSystem.resolveReference joinerPlace ⟨"Joiner", [⟨"String", []⟩]⟩),
      ∀ k ∈ index.typeSystem.constructorCandidates c,
        k.signature.utf8ByteSize < textLimit → k.signature? = some k.signature := by
  have hindexed : (ofDecls joiner).toOption.map (fun index => (index.constructors "p.Joiner",
      (ReferenceResult.candidates
        (index.typeSystem.resolveReference joinerPlace ⟨"Joiner", [⟨"String", []⟩]⟩)).length)) =
      some ([joinerMember], 1) := by
    decide +kernel
  have hmemory : ∀ d ∈ joiner, d.FitsMemory := by
    unfold ClassDecl.FitsMemory
    decide +kernel
  have hdeclared : TypeRef.HasDimensions (.array (.id "T") 1) := fun element => nofun
  have hbound : intArrays.Each TypeRef.HasDimensions :=
    Bindings.each_empty.insert "T" (fun element => nofun)
  have hfits : ((TypeRef.array (.id "T") 1).arrayOf.subst intArrays).DimensionsBelow wordSize :=
    TypeRef.dimensionsBelow_wordSize_iff.2 (by decide +kernel)
  have hwritable : ∀ q ∈ [({ name := "separator", type := .id TypeRef.stringName } : ParameterInfo)] ++ [],
      (q.subst intArrays).isWritable = true := by
    decide +kernel
  cases h : ofDecls joiner with
  | error e =>
    rw [h] at hindexed
    cases hindexed
  | ok index =>
    rw [h] at hindexed
    obtain ⟨hconstructors, hlength⟩ := Prod.mk.inj (Option.some.inj hindexed)
    have hmember : joinerMember ∈ index.constructors "p.Joiner" :=
      hconstructors ▸ List.mem_singleton_self joinerMember
    obtain ⟨p, hp, -, -, -, helement, hsignature, hsome⟩ :=
      varargs_survive.1 joinerMember intArrays none _ _ "parts" _ rfl hdeclared hbound hfits
    have hmem : p ∈ (ofMember joinerMember intArrays none).declared :=
      hp ▸ List.mem_append_right _ List.mem_cons_self
    obtain ⟨hparameters, hreferences⟩ := varargs_survive.2 joiner index h hmemory
    refine ⟨index, rfl, hmemory, hmember, hdeclared, hbound, hfits, ⟨p, hmem, helement⟩,
      (hsome hwritable (by decide +kernel)).trans (congrArg some hsignature), fun q hq hv => ?_, hlength,
      fun c hc k hk => (hreferences _ _ c hc k hk).2⟩
    obtain ⟨t, -, ht, hq, -⟩ := hparameters "p.Joiner" joinerMember hmember intArrays none q hq hv
    exact ⟨t, ht, hq⟩

/-- `T` bound to an array of so many dimensions that two more do not fit a word. -/
def deepArrays : Bindings := ⟨[("T", .array (.raw "int") (wordSize - 2))]⟩

/-- **Dimensions that do not fit a word are lost.**  The element type of `T[]... parts` has as many dimensions
as a word can count, and the array over it has none: arguments are matched against `int`, and the signature
finds no brackets to leave out. -/
theorem not_varargs_survive_wordSize : ∃ index, ofDecls joiner = .ok index ∧
    joinerMember ∈ index.constructors "p.Joiner" ∧
    TypeRef.IsFlat (.array (.id "T") 1) ∧ deepArrays.Each TypeRef.IsFlat ∧
    (ofMember joinerMember deepArrays none).declared =
      [{ name := "separator", type := .id TypeRef.stringName },
        { name := "parts", type := .array (.raw "int") 0, isVarargs := true }] ∧
    (TypeRef.array (.raw "int") 0).element? ≠ some ((TypeRef.array (.id "T") 1).apply deepArrays) ∧
    (ofMember joinerMember deepArrays none).signature? = none := by
  have hindexed : (ofDecls joiner).toOption.map (fun index => index.constructors "p.Joiner") =
      some [joinerMember] := by
    decide +kernel
  have hdeclared : (ofMember joinerMember deepArrays none).declared =
      [{ name := "separator", type := .id TypeRef.stringName },
        { name := "parts", type := .array (.raw "int") 0, isVarargs := true }] := by
    decide +kernel
  have hsignature : (ofMember joinerMember deepArrays none).signature? = none := by
    rw [signature?, hdeclared]
    rfl
  cases h : ofDecls joiner with
  | error e =>
    rw [h] at hindexed
    cases hindexed
  | ok index =>
    rw [h] at hindexed
    have hconstructors : index.constructors "p.Joiner" = [joinerMember] := Option.some.inj hindexed
    have hmember : joinerMember ∈ index.constructors "p.Joiner" :=
      hconstructors ▸ List.mem_singleton_self joinerMember
    exact ⟨index, rfl, hmember, (TypeRef.isFlat_id "T").arrayOver (Nat.le_refl 1),
      Bindings.each_empty.insert "T" ((TypeRef.isFlat_raw "int").arrayOver (by decide)), hdeclared,
      by decide +kernel, hsignature⟩

end ConstructorCandidate
end GroovyNew
