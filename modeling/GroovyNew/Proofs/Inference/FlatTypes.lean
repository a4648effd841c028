/-
# Types stay flat

Arrays are built in many places: by the brackets of a type text, for a variable number of arguments, by a
substitution, by `new int[2][3]`.  None of them forgets to merge the dimensions, and none lets an array
without dimensions through (`ClassIndex.types_stay_flat`).  So in a place whose local variables have flat
types, all types that are compared when constructors are matched against arguments are flat, the types of
the parameters and those of the arguments.

For the parameters that is because the types that are written are flat, and replacing names by flat types
keeps them so, as long as the dimensions fit a word.  They do for all classes that references denote.  A sum
that does not fit may be zero (`ClassIndex.not_types_stay_flat_wordSize`).

The type of an expression is a name, the type of a local variable, of a class reference or of labelled values;
the one array that inference builds itself is that of an array creation, whose element is never an array.
-/

import GroovyNew.Proofs.Constructors.ParameterTypes
import GroovyNew.Proofs.TypeRef.Flatness
import GroovyNew.Resolve.Resolver

namespace GroovyNew

/-! ### Literals and creations -/

namespace Number

theorem isName_narrowest (n : Nat) : (narrowest n).IsName := by
  unfold narrowest
  split
  · trivial
  · split <;> trivial

theorem isName_plainType (cs : List Char) : (plainType cs).IsName := by
  unfold plainType
  split
  · exact isName_narrowest _
  · trivial

theorem isName_of_suffixType? {c : Option Char} {t : TypeRef} (h : suffixType? c = some t) :
    t.IsName := by
  unfold suffixType? at h
  split at h <;> cases h <;> trivial

theorem isName_integerType (text : String) : (integerType text).IsName := by
  rw [integerType]
  cases h : suffixType? (text.toList.filter (· != '_')).getLast? with
  | some t => exact isName_of_suffixType? h
  | none => exact isName_plainType _

theorem isName_decimalType (text : String) : (decimalType text).IsName := by
  unfold decimalType
  split <;> trivial

end Number

theorem Literal.isFlat_type (l : Literal) : l.type.IsFlat := by
  cases l with
  | integer text => exact (Number.isName_integerType text).isFlat
  | decimal text => exact (Number.isName_decimalType text).isFlat
  | bool _ | char _ => exact TypeRef.isFlat_raw _
  | str _ => exact TypeRef.isFlat_id _
  | null => exact TypeRef.isFlat_unknown

namespace NewExpr

variable {ts : TypeSystem} {scope : Scope} {e : NewExpr} {t : TypeRef}

/-- What is created is no array, or an array of what is no array. -/
theorem isFlat_of_elementType? (h : e.elementType? ts scope = some t) : t.isArray = false ∧ t.IsFlat := by
  unfold elementType? at h
  cases hreference : e.reference? with
  | some r =>
    rw [hreference] at h
    obtain rfl := Option.some.inj h
    exact ⟨r.isArray_type ts scope, r.isFlat_type ts scope⟩
  | none =>
    rw [hreference] at h
    cases hbuiltin : e.builtinType? with
    | some name =>
      rw [hbuiltin] at h
      obtain rfl := Option.some.inj h
      exact ⟨rfl, TypeRef.isFlat_raw name⟩
    | none =>
      rw [hbuiltin] at h
      cases h

/-- The type of a `new` expression is flat. -/
theorem isFlat_of_type? (h : e.type? ts scope = some t) : t.IsFlat := by
  obtain ⟨element, helement, rfl⟩ := Option.map_eq_some_iff.1 h
  obtain ⟨hnone, hflat⟩ := isFlat_of_elementType? helement
  split
  · exact hflat
  · rename_i hcount
    exact TypeRef.isFlat_array_iff.2 ⟨⟨Nat.one_le_iff_ne_zero.2 hcount, hnone⟩, hflat⟩

end NewExpr

/-! ### Expressions -/

namespace TypeSystem

variable {ts : TypeSystem} {ctx : Context}

mutual

/-- **The type of an expression is flat**, where the local variables have flat types. -/
theorem isFlat_of_infer? (hlocals : ctx.locals.Each TypeRef.IsFlat) :
    ∀ (e : Expr) {t : TypeRef}, ts.infer? ctx e = some t → t.IsFlat
  | .literal l, _, h => by
    rw [infer?] at h
    obtain rfl := Option.some.inj h
    exact l.isFlat_type
  | .ident name, t, h => by
    rw [infer?] at h
    exact hlocals name t h
  | .this, _, h => by
    rw [infer?] at h
    split at h
    · cases h
    · obtain ⟨c, -, rfl⟩ := Option.map_eq_some_iff.1 h
      exact TypeRef.isFlat_id c
  | .new e, _, h => by
    rw [infer?] at h
    exact NewExpr.isFlat_of_type? h
  | .map entries, _, h => by
    rw [infer?] at h
    obtain rfl := Option.some.inj h
    exact TypeRef.isFlat_map_iff.2 (isFlat_of_mem_inferNamed hlocals entries)
  | .list items, _, h => by
    rw [infer?] at h
    obtain rfl := Option.some.inj h
    exact TypeRef.isFlat_id _
  | .cast target e, _, h => by
    rw [infer?] at h
    obtain rfl := Option.some.inj h
    exact target.isFlat_type ts ctx.toScope
  | .verbatim text, _, h => by
    rw [infer?] at h
    cases h

/-- The types of labelled values are flat. -/
theorem isFlat_of_mem_inferNamed (hlocals : ctx.locals.Each TypeRef.IsFlat) :
    ∀ (named : List NamedArgument) (label : String) (t : TypeRef),
      (label, t) ∈ ts.inferNamed ctx named → t.IsFlat
  | [], _, _, h => by
    rw [inferNamed] at h
    cases h
  | ⟨first, value⟩ :: as, label, t, h => by
    rw [inferNamed] at h
    obtain heq | h := List.mem_cons.1 h
    · obtain ⟨-, rfl⟩ := Prod.mk.inj heq
      cases hvalue : ts.infer? ctx value with
      | none => exact TypeRef.isFlat_unknown
      | some u => exact isFlat_of_infer? hlocals value hvalue
    · exact isFlat_of_mem_inferNamed hlocals as label t h

end

variable (hlocals : ctx.locals.Each TypeRef.IsFlat)
include hlocals

theorem isFlat_inferOrUnknown (e : Expr) : (ts.inferOrUnknown ctx e).IsFlat := by
  rw [inferOrUnknown]
  cases h : ts.infer? ctx e with
  | none => exact TypeRef.isFlat_unknown
  | some t => exact isFlat_of_infer? hlocals e h

/-- The types of the written arguments are flat. -/
theorem isFlat_of_mem_explicitTypes (a : ArgumentList) : ∀ t ∈ ts.explicitTypes ctx a, t.IsFlat := by
  intro t ht
  obtain ht | ht := List.mem_append.1 ht
  · split at ht
    · cases ht
    · obtain rfl := List.mem_singleton.1 ht
      exact TypeRef.isFlat_map_iff.2 (isFlat_of_mem_inferNamed hlocals a.named)
  · obtain ⟨e, -, rfl⟩ := List.mem_map.1 ht
    exact isFlat_inferOrUnknown hlocals e

/-- The type of the enclosing instance that a call passes is flat. -/
theorem isFlat_of_enclosingArgument? {e : NewExpr} {c : ClassCandidate} {t : TypeRef}
    (h : ts.enclosingArgument? ctx e c = some t) : t.IsFlat := by
  unfold enclosingArgument? at h
  split at h
  · split at h
    · obtain rfl := Option.some.inj h
      exact isFlat_inferOrUnknown hlocals _
    · unfold enclosingInstance? at h
      split at h
      · split at h
        · cases h
        · obtain ⟨found, -, rfl⟩ := Option.map_eq_some_iff.1 h
          exact TypeRef.isFlat_id found
      · cases h
  · cases h

/-- **The types of the arguments that a call passes are flat**, where the local variables have flat types. -/
theorem isFlat_of_mem_argumentTypes (e : NewExpr) (c : ClassCandidate) :
    ∀ t ∈ ts.argumentTypes ctx e c, t.IsFlat := by
  have hfront : ∀ args : List TypeRef, (∀ t ∈ args, t.IsFlat) →
      ∀ t ∈ ts.withEnclosing ctx e c args, t.IsFlat := by
    intro args hargs
    unfold withEnclosing
    split
    · rename_i t ht
      exact List.forall_mem_cons.2 ⟨isFlat_of_enclosingArgument? hlocals ht, hargs⟩
    · exact hargs
  unfold argumentTypes
  split
  · exact hfront [] fun _ h => absurd h List.not_mem_nil
  · exact hfront _ (isFlat_of_mem_explicitTypes hlocals _)

end TypeSystem

namespace ClassIndex

/-- The parameters that constructors take are flat, if the type parameters are bound to flat types and the
dimensions fit a word. -/
theorem isFlat_of_mem_effective {ds : List ClassDecl} {index : ClassIndex} (h : ofDecls ds = .ok index)
    (hds : ∀ d ∈ ds, d.FitsMemory) {c : ClassCandidate} (hc : c.substitution.Each TypeRef.IsFlat)
    {k : ConstructorCandidate} (hk : k ∈ index.typeSystem.constructorCandidates c) {p : ParameterInfo}
    (hp : p ∈ k.effective) (hfits : ∀ q ∈ k.member.parameters.getD [], q.subst c.erasure = p →
      (q.type.subst c.erasure).DimensionsBelow wordSize) : p.type.IsFlat := by
  obtain ⟨member, hmember, rfl⟩ := List.mem_map.1 hk
  obtain ⟨t, ht, rfl⟩ | ⟨q, hq, rfl⟩ := ConstructorCandidate.mem_effective_ofMember_iff.1 hp
  · obtain ⟨outer, -, rfl⟩ := Option.map_eq_some_iff.1 ht
    exact TypeRef.isFlat_id outer
  · have heq : (q.subst c.erasure).type = q.type.subst c.erasure :=
      TypeRef.apply_eq_subst (hfits q hq rfl)
    rw [heq]
    exact TypeRef.IsFlat.subst (ClassCandidate.each_eraseUnbound hc TypeRef.isFlat_id _)
      (isFlat_of_mem_parameters h hds hmember hq).1

/-- **Types stay flat**, unless the dimensions do not fit a word.  Over an index of declarations, and in a
place whose local variables have flat types: the parameters in the index are flat, and so are those that
constructors take, if the type parameters of the class are bound to flat types and the dimensions of the exact
result fit a word, which is so of all classes that references denote; the type of each expression and the types
of the arguments of each call are flat; and flatness is kept when names are replaced by flat types, as long as
the dimensions fit, or resolved. -/
theorem types_stay_flat {ds : List ClassDecl} {index : ClassIndex} (h : ofDecls ds = .ok index)
    (hds : ∀ d ∈ ds, d.FitsMemory) {ctx : Context} (hlocals : ctx.locals.Each TypeRef.IsFlat) :
    (∀ fqn, ∀ member ∈ index.constructors fqn, ∀ p ∈ member.parameters.getD [], p.type.IsFlat) ∧
      (∀ c : ClassCandidate, c.substitution.Each TypeRef.IsFlat →
        ∀ k ∈ index.typeSystem.constructorCandidates c, ∀ p ∈ k.effective,
          (∀ q ∈ k.member.parameters.getD [], q.subst c.erasure = p →
            (q.type.subst c.erasure).DimensionsBelow wordSize) → p.type.IsFlat) ∧
      (∀ r, ∀ c ∈ ReferenceResult.candidates (index.typeSystem.resolveReference ctx r),
        c.substitution.Each TypeRef.IsFlat ∧
          ∀ k ∈ index.typeSystem.constructorCandidates c, ∀ p ∈ k.effective, p.type.IsFlat) ∧
      (∀ e t, index.typeSystem.infer? ctx e = some t → t.IsFlat) ∧
      (∀ e c, ∀ t ∈ index.typeSystem.argumentTypes ctx e c, t.IsFlat) ∧
      (∀ (s : Bindings) (t : TypeRef), s.Each TypeRef.IsFlat → t.IsFlat →
        (t.subst s).DimensionsBelow wordSize → (t.apply s).IsFlat) ∧
      ∀ scope t, t.IsFlat → (index.typeSystem.normalize scope t).IsFlat := by
  refine ⟨fun fqn member hmember p hp => ?_, fun c hc k hk p hp hfits => ?_,
    fun r c hc => ⟨?_, fun k hk p hp => ?_⟩, ?_, ?_, fun s t hs ht hfits => ?_, fun scope t => ?_⟩
  · exact (isFlat_of_mem_parameters h hds hmember hp).1
  · exact isFlat_of_mem_effective h hds hc hk hp hfits
  · exact ReferenceResult.each_substitution (CodeReference.isFlat_type _) hc
  · have hflat := ReferenceResult.each_substitution (CodeReference.isFlat_type _) hc
    refine isFlat_of_mem_effective h hds hflat hk hp fun q hq _ => ?_
    obtain ⟨member, hmember, rfl⟩ := List.mem_map.1 hk
    exact dimensionsBelow_of_mem_candidates h hds hc hmember hq
  · exact fun e t => TypeSystem.isFlat_of_infer? hlocals e
  · exact TypeSystem.isFlat_of_mem_argumentTypes hlocals
  · rw [TypeRef.apply_eq_subst hfits]
    exact TypeRef.IsFlat.subst hs ht
  · exact TypeRef.IsFlat.normalize _ _

/-- `class Grid<T>` with the constructor `Grid(Map<String, T[]> rows, T[]... columns)`. -/
def grid : List ClassDecl :=
  [{ fqn := "p.Grid"
     typeParameters := ["T"]
     constructors :=
      [{ parameters :=
          [{ name := "rows", type := "Map<String, T[]>" },
            { name := "columns", type := "T[]", varargs := true }] }] }]

/-- `Grid` with `T` bound to `int[]`. -/
def gridOfArrays : ClassCandidate where
  info := { fqn := "p.Grid", typeParameters := [{ name := "T" }] }
  substitution := ⟨[("T", .array (.raw "int") 1)]⟩

/-- A place in the package with a local variable `int[][] cells`. -/
def gridPlace : Context where
  package := some "p"
  locals := ⟨[("cells", .array (.raw "int") 2)]⟩

/-- `new Grid([a: cells], new int[2][3])`. -/
def newGrid : NewExpr :=
  (NewExpr.ofReference 1 ⟨"Grid", []⟩).withChild (.arguments
    { positional := [.map [⟨"a", .ident "cells"⟩],
        .new ⟨2, none, [.keyword, .builtinType "int", .arrayDeclaration 2]⟩] })

/-- Where `T` is `int[]`, `T[]... columns` is an array of three dimensions over `int`, and the types of the
parameters and of the arguments are flat. -/
theorem types_stay_flat_grid : ∃ index, ofDecls grid = .ok index ∧ (∀ d ∈ grid, d.FitsMemory) ∧
    gridPlace.locals.Each TypeRef.IsFlat ∧ gridOfArrays.substitution.Each TypeRef.IsFlat ∧
    (index.typeSystem.constructorCandidates gridOfArrays).map (fun k => k.effective.map (·.type)) =
      [[.generic (.id TypeRef.mapName) [.id TypeRef.stringName, .array (.raw "int") 2],
        .array (.raw "int") 3]] ∧
    (∀ k ∈ index.typeSystem.constructorCandidates gridOfArrays, ∀ p ∈ k.effective, p.type.IsFlat) ∧
    (((TypeRef.array (.id "T") 1).apply gridOfArrays.substitution) = .array (.raw "int") 2 ∧
      ((TypeRef.array (.id "T") 1).apply gridOfArrays.substitution).IsFlat) ∧
    index.typeSystem.argumentTypes gridPlace newGrid gridOfArrays =
      [.map [("a", .array (.raw "int") 2)], .array (.raw "int") 2] ∧
    ∀ t ∈ index.typeSystem.argumentTypes gridPlace newGrid gridOfArrays, t.IsFlat := by
  have hindexed : (ofDecls grid).toOption.map (fun index =>
      ((index.typeSystem.constructorCandidates gridOfArrays).map (fun k => k.effective.map (·.type)),
        (index.typeSystem.constructorCandidates gridOfArrays).all (fun k =>
          (k.member.parameters.getD []).all fun q =>
            (q.type.subst gridOfArrays.erasure).wrapped == q.type.subst gridOfArrays.erasure),
        index.typeSystem.argumentTypes gridPlace newGrid gridOfArrays)) =
      some ([[.generic (.id TypeRef.mapName) [.id TypeRef.stringName, .array (.raw "int") 2],
        .array (.raw "int") 3]], true, [.map [("a", .array (.raw "int") 2)], .array (.raw "int") 2]) := by
    decide +kernel
  have hmemory : ∀ d ∈ grid, d.FitsMemory := by
    unfold ClassDecl.FitsMemory
    decide +kernel
  have hflat : ∀ dimensions, 1 ≤ dimensions → (TypeRef.array (.raw "int") dimensions).IsFlat :=
    fun dimensions hd => (TypeRef.isFlat_raw "int").arrayOver hd
  have hlocals : gridPlace.locals.Each TypeRef.IsFlat :=
    Bindings.each_empty.insert "cells" (hflat 2 (by decide))
  have hbound : gridOfArrays.substitution.Each TypeRef.IsFlat :=
    Bindings.each_empty.insert "T" (hflat 1 (by decide))
  cases h : ofDecls grid with
  | error e =>
    rw [h] at hindexed
    cases hindexed
  | ok index =>
    rw [h] at hindexed
    obtain ⟨hparameters, hrest⟩ := Prod.mk.inj (Option.some.inj hindexed)
    obtain ⟨hwrapped, harguments⟩ := Prod.mk.inj hrest
    have hfits : ∀ k ∈ index.typeSystem.constructorCandidates gridOfArrays,
        ∀ q ∈ k.member.parameters.getD [],
          (q.type.subst gridOfArrays.erasure).DimensionsBelow wordSize := fun k hk q hq =>
      TypeRef.dimensionsBelow_wordSize_iff.2
        (eq_of_beq (List.all_eq_true.1 (List.all_eq_true.1 hwrapped k hk) q hq))
    obtain ⟨-, heffective, -, -, hpassed, happly, -⟩ := types_stay_flat h hmemory hlocals
    exact ⟨index, rfl, hmemory, hlocals, hbound, hparameters,
      fun k hk p hp => heffective gridOfArrays hbound k hk p hp fun q hq _ => hfits k hk q hq,
      ⟨by decide +kernel, happly _ _ hbound ((TypeRef.isFlat_id "T").arrayOver (Nat.le_refl 1))
        (TypeRef.dimensionsBelow_wordSize_iff.2 (by decide +kernel))⟩,
      harguments, hpassed newGrid gridOfArrays⟩

/-- `class Stack<T>` with the constructor `Stack(T... levels)`. -/
def stack : List ClassDecl :=
  [{ fqn := "p.Stack"
     typeParameters := ["T"]
     constructors := [{ parameters := [{ name := "levels", type := "T", varargs := true }] }] }]

/-- `Stack` with `T` bound to an array of as many dimensions as a word can count. -/
def stackOfDeepArrays : ClassCandidate where
  info := { fqn := "p.Stack", typeParameters := [{ name := "T" }] }
  substitution := ⟨[("T", .array (.raw "int") (wordSize - 1))]⟩

/-- **Types do not stay flat where dimensions do not fit a word.**  The parameter `T... levels` is an array
without dimensions, if `T` is an array of as many as a word can count. -/
theorem not_types_stay_flat_wordSize : ∃ index, ofDecls stack = .ok index ∧
    stackOfDeepArrays.substitution.Each TypeRef.IsFlat ∧ TypeRef.IsFlat (.array (.id "T") 1) ∧
    (∃ k ∈ index.typeSystem.constructorCandidates stackOfDeepArrays, ∃ p ∈ k.effective,
      p.type = .array (.raw "int") 0 ∧ ¬p.type.IsFlat) ∧
    ¬((TypeRef.array (.id "T") 1).apply stackOfDeepArrays.substitution).IsFlat := by
  have hindexed : (ofDecls stack).toOption.map (fun index =>
      (index.typeSystem.constructorCandidates stackOfDeepArrays).map fun k => k.effective.map (·.type)) =
      some [[.array (.raw "int") 0]] := by
    decide +kernel
  have hnone : ¬(TypeRef.array (.raw "int") 0).IsFlat := fun h =>
    Nat.not_succ_le_zero 0 (h (.raw "int") 0 (.self _)).1
  have happly : (TypeRef.array (.id "T") 1).apply stackOfDeepArrays.substitution = .array (.raw "int") 0 := by
    decide +kernel
  cases h : ofDecls stack with
  | error e =>
    rw [h] at hindexed
    cases hindexed
  | ok index =>
    rw [h] at hindexed
    have hparameters : (index.typeSystem.constructorCandidates stackOfDeepArrays).map
        (fun k => k.effective.map (·.type)) = [[.array (.raw "int") 0]] := Option.some.inj hindexed
    obtain ⟨k, hk, hone⟩ := List.mem_map.1 (hparameters ▸ List.mem_singleton_self _)
    obtain ⟨p, hp, htype⟩ := List.mem_map.1 (hone ▸ List.mem_singleton_self _)
    exact ⟨index, rfl,
      Bindings.each_empty.insert "T" ((TypeRef.isFlat_raw "int").arrayOver (by decide)),
      (TypeRef.isFlat_id "T").arrayOver (Nat.le_refl 1), ⟨k, hk, p, hp, htype, htype ▸ hnone⟩,
      happly ▸ hnone⟩

end ClassIndex
end GroovyNew
