/-
# One more on-demand import

A simple name is searched nearby first: among the types that the file declares, the classes around the place
and their members, the single imports and the classes of the file's package (`ClassIndex.HasNearer`).  The
on-demand imports come next (`ClassIndex.HasOnDemand`), and far away the default imports and the unnamed
package.  `ClassIndex.candidates_addOnDemand` says what an import `p.*` behind the others changes:

| found before | candidates after, if `p.n` is known |
| --- | --- |
| nearby | as before |
| by an on-demand import | as before, with `p.n` behind them unless it is one of them |
| far away, or nowhere | `p.n` alone |

So the first class of a name changes only if it was found far away, or if there was none.  A type that the
file declares outside a package is not told by its simple name (`declaredType?`): it is found far away, if
it is known at all, and an on-demand import takes its place.

The imports are read twice, once for single imports and once for packages.  That `p.*` is no single import of
a name holds of every name but `*` (`Name.isMemberNamed_star`).
-/

import GroovyNew.Proofs.ClassIndex.Shadowing
import GroovyNew.Proofs.Constructors.Views
import GroovyNew.Proofs.Inference.ConstructedClass

namespace GroovyNew

/-! ### The import -/

namespace Name

variable {imported p name : String}

/-- The on-demand import of a package or class. -/
theorem onDemand?_eq_some_iff : onDemand? imported = some p ↔ imported = qualify p "*" := by
  constructor
  · intro h
    unfold onDemand? at h
    split at h
    · rename_i hstar
      obtain rfl := Option.some.inj h
      obtain ⟨cs, hcs⟩ := isMemberNamed_iff.1 hstar
      refine String.toList_injective ?_
      rw [← hcs]
      simp [qualify]
    · cases h
  · rintro rfl
    exact onDemand?_qualify p

/-- An on-demand import is no single import of a simple name. -/
theorem isMemberNamed_star (h : '.' ∉ name.toList) (hstar : name ≠ "*") :
    isMemberNamed (qualify p "*") name = false := by
  rw [Bool.eq_false_iff, Ne, isMemberNamed_iff_lastSegment h, lastSegment_qualify (by decide)]
  exact fun hmember => hstar hmember.2.symm

end Name

/-- The scope with the on-demand import `p.*` behind its imports. -/
def Scope.addOnDemand (scope : Scope) (p : String) : Scope :=
  { scope with imports := scope.imports ++ [Name.qualify p "*"] }

/-- The context with the on-demand import `p.*` behind its imports. -/
def Context.addOnDemand (ctx : Context) (p : String) : Context :=
  { ctx with toScope := ctx.toScope.addOnDemand p }

namespace ClassIndex

variable {index : ClassIndex} {scope : Scope} {name fqn p : String}

/-! ### Nearby, on demand, far away -/

/-- Something with the simple name is nearer than the on-demand imports. -/
inductive HasNearer (index : ClassIndex) (scope : Scope) (name : String) : Prop
  /-- The file declares a type of the name, in a package. -/
  | declared {d : String} (mem : d ∈ scope.declaredTypes) (named : Name.isMemberNamed d name = true)
  /-- A class around the place has the name. -/
  | enclosing {inner c : String} (inside : scope.enclosingClass = some inner)
    (around : c ∈ index.outerChain inner) (named : Name.lastSegment c = name)
  /-- A class around the place has a member class of the name. -/
  | member {inner c : String} (inside : scope.enclosingClass = some inner)
    (around : c ∈ index.outerChain inner) (declares : index.declares (Name.qualify c name) = true)
  /-- A single import has the name. -/
  | imported {i : String} (mem : i ∈ scope.imports) (named : Name.isMemberNamed i name = true)
  /-- The file's package has a known class of the name. -/
  | package {q : String} (inside : scope.package = some q) (knows : index.knows (Name.qualify q name) = true)

/-- An on-demand import gives a known class of the simple name. -/
def HasOnDemand (index : ClassIndex) (scope : Scope) (name : String) : Prop :=
  ∃ q, Name.qualify q "*" ∈ scope.imports ∧ index.knows (Name.qualify q name) = true

/-- What is found under a simple name before the on-demand imports are searched. -/
def nearer? (index : ClassIndex) (scope : Scope) (name : String) : Option String :=
  (declaredType? scope name).or <| (index.memberType? scope name).or <|
    (singleImport? scope name).or (index.packageMember? scope name)

/-- What is found under a simple name if the on-demand imports give nothing. -/
def farther? (index : ClassIndex) (name : String) : Option String :=
  (index.defaultImport? name).or (if index.knows name then some name else none)

theorem isSome_memberInChain?_iff {chain : List String} :
    (index.memberInChain? name chain).isSome = true ↔
      ∃ c ∈ chain, Name.lastSegment c = name ∨ index.declares (Name.qualify c name) = true := by
  induction chain with
  | nil => simp [memberInChain?]
  | cons c chain ih =>
    rw [memberInChain?, List.exists_mem_cons_iff, ← ih]
    split
    · simp [*]
    · split <;> simp [*]

theorem isSome_memberType?_iff : (index.memberType? scope name).isSome = true ↔
    ∃ inner, scope.enclosingClass = some inner ∧ ∃ c ∈ index.outerChain inner,
      Name.lastSegment c = name ∨ index.declares (Name.qualify c name) = true := by
  unfold memberType?
  cases scope.enclosingClass with
  | none => simp
  | some inner => simp [isSome_memberInChain?_iff]

theorem isSome_packageMember?_iff : (index.packageMember? scope name).isSome = true ↔
    ∃ q, scope.package = some q ∧ index.knows (Name.qualify q name) = true := by
  unfold packageMember?
  cases scope.package with
  | none => simp
  | some q => simp

/-- **The first stages find something exactly if something is nearby.** -/
theorem isSome_nearer?_iff : (index.nearer? scope name).isSome = true ↔ index.HasNearer scope name := by
  rw [nearer?, Option.isSome_or, Option.isSome_or, Option.isSome_or, Bool.or_eq_true, Bool.or_eq_true,
    Bool.or_eq_true, declaredType?, singleImport?, List.find?_isSome, List.find?_isSome,
    isSome_memberType?_iff, isSome_packageMember?_iff]
  constructor
  · rintro (⟨d, hd, hname⟩ | ⟨inner, hinner, c, hc, hname | hmember⟩ | ⟨i, hi, hname⟩ | ⟨q, hq, hknows⟩)
    · exact .declared hd hname
    · exact .enclosing hinner hc hname
    · exact .member hinner hc hmember
    · exact .imported hi hname
    · exact .package hq hknows
  · rintro (⟨hd, hname⟩ | ⟨hinner, hc, hname⟩ | ⟨hinner, hc, hmember⟩ | ⟨hi, hname⟩ | ⟨hq, hknows⟩)
    · exact .inl ⟨_, hd, hname⟩
    · exact .inr (.inl ⟨_, hinner, _, hc, .inl hname⟩)
    · exact .inr (.inl ⟨_, hinner, _, hc, .inr hmember⟩)
    · exact .inr (.inr (.inl ⟨_, hi, hname⟩))
    · exact .inr (.inr (.inr ⟨_, hq, hknows⟩))

instance (index : ClassIndex) (scope : Scope) (name : String) : Decidable (index.HasNearer scope name) :=
  decidable_of_iff _ isSome_nearer?_iff

theorem nearer?_eq_none_iff : index.nearer? scope name = none ↔ ¬index.HasNearer scope name := by
  rw [← isSome_nearer?_iff, Bool.not_eq_true, Option.isSome_eq_false_iff, Option.isNone_iff_eq_none]

/-- The on-demand imports find something exactly if one of them gives a known class. -/
theorem onDemandClasses_ne_nil_iff :
    index.onDemandClasses name scope.imports ≠ [] ↔ index.HasOnDemand scope name := by
  constructor
  · intro hne
    obtain ⟨fqn, hfqn⟩ := List.exists_mem_of_ne_nil _ hne
    obtain ⟨hmem, hknows⟩ := List.mem_filter.1 hfqn
    obtain ⟨q, hq, rfl⟩ := List.mem_map.1 hmem
    obtain ⟨i, hi, himport⟩ := List.mem_filterMap.1 hq
    exact ⟨q, Name.onDemand?_eq_some_iff.1 himport ▸ hi, hknows⟩
  · rintro ⟨q, hq, hknows⟩
    have himport : q ∈ scope.imports.filterMap Name.onDemand? :=
      List.mem_filterMap.2 ⟨_, hq, Name.onDemand?_qualify q⟩
    exact List.ne_nil_of_mem (List.mem_filter.2 ⟨List.mem_map_of_mem himport, hknows⟩)

instance (index : ClassIndex) (scope : Scope) (name : String) : Decidable (index.HasOnDemand scope name) :=
  decidable_of_iff _ onDemandClasses_ne_nil_iff

/-- A simple name is searched nearby, then in the on-demand imports, then far away. -/
theorem candidates_eq_stages (index : ClassIndex) (scope : Scope) (h : '.' ∉ name.toList) :
    index.candidates scope name = match index.nearer? scope name with
      | some fqn => [fqn]
      | none => if index.HasOnDemand scope name then unseen [] (index.onDemandClasses name scope.imports)
        else (index.farther? name).toList := by
  rw [candidates, Name.splitFirst?_eq_none h, nearer?, farther?]
  simp only [simpleCandidates, onDemandImports_eq_append, List.nil_append]
  cases declaredType? scope name with
  | some fqn => rfl
  | none =>
  cases index.memberType? scope name with
  | some fqn => rfl
  | none =>
  cases singleImport? scope name with
  | some fqn => rfl
  | none =>
  cases index.packageMember? scope name with
  | some fqn => rfl
  | none =>
  cases hhits : unseen [] (index.onDemandClasses name scope.imports) with
  | cons fqn fqns =>
    have hsome : index.HasOnDemand scope name :=
      onDemandClasses_ne_nil_iff.1 fun hnil => by simp [hnil, unseen] at hhits
    simp [hsome]
  | nil =>
    have hnone : ¬index.HasOnDemand scope name := fun hsome =>
      onDemandClasses_ne_nil_iff.2 hsome (unseen_eq_nil_iff.1 hhits)
    cases index.defaultImport? name with
    | some fqn => simp [hnone]
    | none => cases index.knows name <;> simp [hnone]

/-! ### The import added -/

/-- What is nearby stays the same. -/
theorem nearer?_addOnDemand (index : ClassIndex) (scope : Scope) (p : String) (h : '.' ∉ name.toList)
    (hstar : name ≠ "*") : index.nearer? (scope.addOnDemand p) name = index.nearer? scope name := by
  have hsingle : singleImport? (scope.addOnDemand p) name = singleImport? scope name := by
    simp [singleImport?, Scope.addOnDemand, Name.isMemberNamed_star h hstar]
  rw [nearer?, nearer?, hsingle]
  rfl

/-- The class that the import gives comes behind those that the imports before it give. -/
theorem onDemandClasses_addOnDemand (index : ClassIndex) (scope : Scope) (name p : String) :
    index.onDemandClasses name (scope.addOnDemand p).imports =
      index.onDemandClasses name scope.imports ++
        if index.knows (Name.qualify p name) then [Name.qualify p name] else [] := by
  simp [onDemandClasses, Scope.addOnDemand, Name.onDemand?_qualify, List.filter_cons]

/-- An import of a class that is not known adds nothing. -/
theorem candidates_addOnDemand_of_not_knows (h : '.' ∉ name.toList) (hstar : name ≠ "*")
    (hknows : index.knows (Name.qualify p name) = false) :
    index.candidates (scope.addOnDemand p) name = index.candidates scope name := by
  have hclasses : index.onDemandClasses name (scope.addOnDemand p).imports =
      index.onDemandClasses name scope.imports := by
    rw [onDemandClasses_addOnDemand]
    simp [hknows]
  have hsome : index.HasOnDemand (scope.addOnDemand p) name ↔ index.HasOnDemand scope name := by
    rw [← onDemandClasses_ne_nil_iff, ← onDemandClasses_ne_nil_iff, hclasses]
  simp only [candidates_eq_stages index _ h, nearer?_addOnDemand index scope p h hstar, hclasses, hsome]

/-- An import adds nothing to what is found nearby. -/
theorem candidates_addOnDemand_of_hasNearer (h : '.' ∉ name.toList) (hstar : name ≠ "*")
    (hnear : index.HasNearer scope name) :
    index.candidates (scope.addOnDemand p) name = index.candidates scope name := by
  obtain ⟨fqn, hfqn⟩ := Option.isSome_iff_exists.1 (isSome_nearer?_iff.2 hnear)
  rw [candidates_eq_stages index _ h, candidates_eq_stages index _ h,
    nearer?_addOnDemand index scope p h hstar, hfqn]

theorem hasOnDemand_addOnDemand (hknows : index.knows (Name.qualify p name) = true) :
    index.HasOnDemand (scope.addOnDemand p) name :=
  ⟨p, List.mem_append_right _ (List.mem_singleton_self _), hknows⟩

/-- Where nothing is nearby, the known class of the import joins what other on-demand imports give. -/
theorem candidates_addOnDemand_of_hasOnDemand (h : '.' ∉ name.toList) (hstar : name ≠ "*")
    (hknows : index.knows (Name.qualify p name) = true) (hnear : ¬index.HasNearer scope name)
    (hsome : index.HasOnDemand scope name) :
    index.candidates (scope.addOnDemand p) name =
      if Name.qualify p name ∈ index.candidates scope name then index.candidates scope name
      else index.candidates scope name ++ [Name.qualify p name] := by
  rw [candidates_eq_stages index _ h, candidates_eq_stages index _ h,
    nearer?_addOnDemand index scope p h hstar, nearer?_eq_none_iff.2 hnear]
  simp only [hsome, hasOnDemand_addOnDemand hknows, if_true, onDemandClasses_addOnDemand, hknows]
  exact unseen_concat _ _

/-- Where nothing is nearby and no other on-demand import gives anything, the known class of the import stands
alone. -/
theorem candidates_addOnDemand_of_not_hasOnDemand (h : '.' ∉ name.toList) (hstar : name ≠ "*")
    (hknows : index.knows (Name.qualify p name) = true) (hnear : ¬index.HasNearer scope name)
    (hnone : ¬index.HasOnDemand scope name) :
    index.candidates (scope.addOnDemand p) name = [Name.qualify p name] := by
  have hclasses : index.onDemandClasses name scope.imports = [] := by
    by_contra hne
    exact hnone (onDemandClasses_ne_nil_iff.1 hne)
  rw [candidates_eq_stages index _ h, nearer?_addOnDemand index scope p h hstar,
    nearer?_eq_none_iff.2 hnear]
  simp only [hasOnDemand_addOnDemand hknows, if_true, onDemandClasses_addOnDemand, hclasses, hknows]
  rfl

/-! ### The class picked -/

/-- The first class that a reference denotes is the first known candidate of its name. -/
theorem map_fqn_pick?_first (index : ClassIndex) (ctx : Context) (r : CodeReference) :
    (ClassPick.first.pick? (index.typeSystem.resolveReference ctx r)).map (·.fqn) =
      (index.candidates ctx.toScope r.name).find? index.knows := by
  rw [ClassPick.pick?_first, TypeSystem.candidates_resolveReference, ← List.head?_map,
    map_fqn_filterMap_classCandidate?, List.head?_filter]
  rfl

/-- The first known class of a name that is found nearby or by an on-demand import stays the first one. -/
theorem find?_candidates_addOnDemand (h : '.' ∉ name.toList) (hstar : name ≠ "*")
    (hfound : index.HasNearer scope name ∨ index.HasOnDemand scope name) :
    (index.candidates (scope.addOnDemand p) name).find? index.knows =
      (index.candidates scope name).find? index.knows := by
  by_cases hnear : index.HasNearer scope name
  · rw [candidates_addOnDemand_of_hasNearer h hstar hnear]
  cases hknows : index.knows (Name.qualify p name) with
  | false => rw [candidates_addOnDemand_of_not_knows h hstar hknows]
  | true =>
    have hsome := hfound.resolve_left hnear
    rw [candidates_addOnDemand_of_hasOnDemand h hstar hknows hnear hsome]
    split
    · rfl
    · -- What the other imports give is known, so the new class is not reached.
      obtain ⟨fqn, hfqn⟩ := List.exists_mem_of_ne_nil _ (onDemandClasses_ne_nil_iff.2 hsome)
      have hfirst : ((index.candidates scope name).find? index.knows).isSome = true := by
        rw [candidates_eq_stages index scope h, nearer?_eq_none_iff.2 hnear, List.find?_isSome]
        simp only [hsome, if_true, mem_unseen, List.not_mem_nil, not_false_eq_true, and_true]
        exact ⟨fqn, hfqn, (List.mem_filter.1 hfqn).2⟩
      rw [List.find?_append, Option.or_of_isSome hfirst]

/-- A simple name that is found far away only denotes what is found there. -/
theorem candidates_eq_farther? (h : '.' ∉ name.toList) (hnear : ¬index.HasNearer scope name)
    (hnone : ¬index.HasOnDemand scope name) :
    index.candidates scope name = (index.farther? name).toList := by
  rw [candidates_eq_stages index scope h, nearer?_eq_none_iff.2 hnear]
  exact if_neg hnone

theorem farther?_eq_some (hfar : index.farther? name = some fqn) :
    index.defaultImport? name = some fqn ∨ index.defaultImport? name = none ∧ fqn = name := by
  rw [farther?, Option.or_eq_some_iff] at hfar
  refine hfar.imp_right fun ⟨hnone, hname⟩ => ⟨hnone, ?_⟩
  split at hname
  · exact (Option.some.inj hname).symm
  · cases hname

/-- **What one more on-demand import changes.**  Behind the other imports, `p.*` changes what a simple name
`n` denotes only if `p.n` is a known class and nothing nearby has the name.  Then `p.n` comes behind what
the other on-demand imports give, and stands alone if they give nothing.  So the first class changes only
if it was a default import or of the unnamed package, or if there was none. -/
theorem candidates_addOnDemand (index : ClassIndex) (ctx : Context) (p : String) (h : '.' ∉ name.toList)
    (hstar : name ≠ "*") :
    (index.knows (Name.qualify p name) = false →
        index.candidates (ctx.toScope.addOnDemand p) name = index.candidates ctx.toScope name) ∧
      (index.HasNearer ctx.toScope name →
        index.candidates (ctx.toScope.addOnDemand p) name = index.candidates ctx.toScope name) ∧
      (index.knows (Name.qualify p name) = true → ¬index.HasNearer ctx.toScope name →
        (index.HasOnDemand ctx.toScope name → index.candidates (ctx.toScope.addOnDemand p) name =
          if Name.qualify p name ∈ index.candidates ctx.toScope name then
            index.candidates ctx.toScope name
          else index.candidates ctx.toScope name ++ [Name.qualify p name]) ∧
        (¬index.HasOnDemand ctx.toScope name →
          index.candidates (ctx.toScope.addOnDemand p) name = [Name.qualify p name])) ∧
      ∀ args,
        (ClassPick.first.pick? (index.typeSystem.resolveReference (ctx.addOnDemand p) ⟨name, args⟩)).map
            (·.fqn) ≠
          (ClassPick.first.pick? (index.typeSystem.resolveReference ctx ⟨name, args⟩)).map (·.fqn) →
        ClassPick.first.pick? (index.typeSystem.resolveReference ctx ⟨name, args⟩) = none ∨
          ∃ c, ClassPick.first.pick? (index.typeSystem.resolveReference ctx ⟨name, args⟩) = some c ∧
            ¬index.HasNearer ctx.toScope name ∧ ¬index.HasOnDemand ctx.toScope name ∧
            (index.defaultImport? name = some c.fqn ∨ index.defaultImport? name = none ∧ c.fqn = name) := by
  refine ⟨candidates_addOnDemand_of_not_knows h hstar, candidates_addOnDemand_of_hasNearer h hstar,
    fun hknows hnear => ⟨candidates_addOnDemand_of_hasOnDemand h hstar hknows hnear,
      candidates_addOnDemand_of_not_hasOnDemand h hstar hknows hnear⟩, fun args hchanged => ?_⟩
  rw [map_fqn_pick?_first, map_fqn_pick?_first] at hchanged
  obtain ⟨hnear, hnone⟩ := not_or.1 fun hfound => hchanged (find?_candidates_addOnDemand h hstar hfound)
  cases hpick : ClassPick.first.pick? (index.typeSystem.resolveReference ctx ⟨name, args⟩) with
  | none => exact .inl rfl
  | some c =>
    have hfirst := index.map_fqn_pick?_first ctx ⟨name, args⟩
    rw [hpick, candidates_eq_farther? h hnear hnone] at hfirst
    have hfar := List.mem_of_find?_eq_some hfirst.symm
    exact .inr ⟨c, rfl, hnear, hnone, farther?_eq_some (Option.mem_toList.1 hfar)⟩

/-- Two packages with a class of the same name, which is that of a default import too. -/
def lists : ClassIndex := entries [{ fqn := "a.List" }, { fqn := "b.List" }]

/-- `import b.*` leaves a list of the file's package, comes behind that of `import a.*`, and takes the place
of the default import. -/
theorem candidates_addOnDemand_lists : '.' ∉ "List".toList ∧ "List" ≠ "*" ∧
    lists.candidates (Scope.addOnDemand {} "c") "List" = ["java.util.List"] ∧
    lists.candidates (Scope.addOnDemand { package := some "a" } "b") "List" = ["a.List"] ∧
    lists.candidates (Scope.addOnDemand { imports := ["a.*"] } "b") "List" = ["a.List", "b.List"] ∧
    lists.candidates (Scope.addOnDemand {} "b") "List" = ["b.List"] ∧
    ∃ c, ClassPick.first.pick? (lists.typeSystem.resolveReference {} ⟨"List", []⟩) = some c ∧
      (lists.defaultImport? "List" = some c.fqn ∨
        lists.defaultImport? "List" = none ∧ c.fqn = "List") := by
  have h : '.' ∉ "List".toList := by decide
  have hstar : "List" ≠ "*" := by decide
  obtain ⟨hunknown, -, -, -⟩ := candidates_addOnDemand lists {} "c" h hstar
  obtain ⟨-, hnear, -, -⟩ := candidates_addOnDemand lists { package := some "a" } "b" h hstar
  obtain ⟨-, -, hjoins, -⟩ := candidates_addOnDemand lists { imports := ["a.*"] } "b" h hstar
  obtain ⟨-, -, halone, hpicks⟩ := candidates_addOnDemand lists {} "b" h hstar
  refine ⟨h, hstar, (hunknown (by decide +kernel)).trans (by decide +kernel),
    (hnear (by decide +kernel)).trans (by decide +kernel),
    ((hjoins (by decide +kernel) (by decide +kernel)).1 (by decide +kernel)).trans (by decide +kernel),
    (halone (by decide +kernel) (by decide +kernel)).2 (by decide +kernel), ?_⟩
  obtain hnone | ⟨c, hc, -, -, hfar⟩ := hpicks [] (by decide +kernel)
  · exact absurd hnone (by decide +kernel)
  · exact ⟨c, hc, hfar⟩

end ClassIndex
end GroovyNew
