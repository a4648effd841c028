/-
# The order of declarations does not matter

`ClassIndex.ofDecls_perm` says of declarations in two orders that they can be indexed in both or in neither,
and that the two indexes then answer alike.

A constructor parameter may name a class that is declared later, and its class is searched for in the package,
in the classes around and over the whole index.  All of these searches look classes up by name, and a name
finds the same class in either order (`ClassIndex.Reorders.find?_eq`).  What they use besides is the number of
classes and of inherited names, which bound the walks outwards and upwards, and whether some name lies in a
package.  So the searches agree over the entries of the classes, which are then completed alike
(`ClassIndex.Reorders.complete_eq`), and the completed classes in two orders are one source of knowledge
(`ClassIndex.Reorders.typeSystem_eq`).
-/

import GroovyNew.Proofs.ClassIndex.Indexing
import Mathlib.Data.List.Nodup

namespace GroovyNew
namespace ClassIndex

/-- Where names are distinct, a name finds the class that has it. -/
theorem find?_eq_some_iff {index : ClassIndex} (hn : index.names.Nodup) {fqn : String}
    {c : IndexedClass} : index.find? fqn = some c ↔ c ∈ index.classes ∧ c.info.fqn = fqn := by
  unfold find?
  constructor
  · intro h
    have hname := List.find?_some h
    exact ⟨List.mem_of_find?_eq_some h, eq_of_beq hname⟩
  · rintro ⟨hc, rfl⟩
    cases hfind : index.classes.find? fun d => d.info.fqn == c.info.fqn with
    | none => exact absurd (beq_self_eq_true _) (List.find?_eq_none.1 hfind c hc)
    | some d =>
      have hname := List.find?_some hfind
      have hmem := List.mem_of_find?_eq_some hfind
      exact congrArg some (List.inj_on_of_nodup_map hn hmem hc (eq_of_beq hname))

/-- The indexes hold the same classes in some order each, no two classes of one name. -/
structure Reorders (a b : ClassIndex) : Prop where
  perm : a.classes.Perm b.classes
  nodup : a.names.Nodup

namespace Reorders

variable {a b : ClassIndex}

/-! ### Looking up -/

/-- A name finds the same class in either order. -/
theorem find?_eq (h : a.Reorders b) : a.find? = b.find? := by
  funext fqn
  have hn : b.names.Nodup := (h.perm.map _).nodup h.nodup
  refine Option.ext fun c => ?_
  rw [find?_eq_some_iff h.nodup, find?_eq_some_iff hn, h.perm.mem_iff]

theorem declares_eq (h : a.Reorders b) : a.declares = b.declares := by
  funext fqn
  rw [declares, declares, h.find?_eq]

theorem knows_eq (h : a.Reorders b) : a.knows = b.knows := by
  funext fqn
  rw [knows, knows, h.declares_eq]

theorem typeInfo?_eq (h : a.Reorders b) : a.typeInfo? = b.typeInfo? := by
  funext fqn
  rw [typeInfo?, typeInfo?, h.find?_eq]

theorem constructors_eq (h : a.Reorders b) : a.constructors = b.constructors := by
  funext fqn
  rw [constructors, constructors, h.find?_eq]

/-! ### Outwards and upwards -/

theorem outerChain_eq (h : a.Reorders b) : a.outerChain = b.outerChain := by
  have hfrom : ∀ steps fqn, a.outerChainFrom steps fqn = b.outerChainFrom steps fqn := by
    intro steps
    induction steps with
    | zero => exact fun _ => rfl
    | succ steps ih =>
      intro fqn
      rw [outerChainFrom, outerChainFrom, outer?, outer?, h.find?_eq]
      simp only [ih]
  funext fqn
  rw [outerChain, outerChain, size, size, h.perm.length_eq, hfrom]

theorem packageOf?_eq (h : a.Reorders b) : a.packageOf? = b.packageOf? := by
  funext fqn
  rw [packageOf?, packageOf?, outermost, outermost, h.outerChain_eq]

theorem parentCount_eq (h : a.Reorders b) : a.parentCount = b.parentCount :=
  (h.perm.flatMap_right _).length_eq

theorem ancestors_eq (h : a.Reorders b) : a.ancestors = b.ancestors := by
  have hparents : a.parents = b.parents := by
    funext fqn
    rw [parents, parents, h.find?_eq]
  have hwalk : ∀ fuel queue seen, a.walk fuel queue seen = b.walk fuel queue seen := by
    intro fuel
    induction fuel with
    | zero => exact fun _ _ => rfl
    | succ fuel ih =>
      intro queue seen
      cases queue with
      | nil => rfl
      | cons fqn queue => rw [walk, walk, hparents, ih]
  funext fqn
  rw [ancestors, ancestors, h.parentCount_eq, hwalk]

/-! ### What names denote -/

theorem memberType?_eq (h : a.Reorders b) : a.memberType? = b.memberType? := by
  have hchain : ∀ name chain, a.memberInChain? name chain = b.memberInChain? name chain := by
    intro name chain
    induction chain with
    | nil => rfl
    | cons c chain ih => rw [memberInChain?, memberInChain?, h.declares_eq, ih]
  funext scope name
  rw [memberType?, memberType?, h.outerChain_eq]
  simp only [hchain]

theorem onDemandImports_eq (h : a.Reorders b) : a.onDemandImports = b.onDemandImports := by
  funext name imports
  induction imports with
  | nil => rfl
  | cons i imports ih =>
    funext hits
    rw [onDemandImports, onDemandImports, h.knows_eq, ih]

theorem simpleCandidates_eq (h : a.Reorders b) : a.simpleCandidates = b.simpleCandidates := by
  funext scope name
  simp only [simpleCandidates, packageMember?, defaultImport?, h.memberType?_eq, h.onDemandImports_eq,
    h.knows_eq]

theorem candidates_eq (h : a.Reorders b) : a.candidates = b.candidates := by
  funext scope name
  rw [candidates, candidates, h.simpleCandidates_eq, h.knows_eq]

theorem typeName?_eq (h : a.Reorders b) : a.typeName? = b.typeName? := by
  funext scope name
  rw [typeName?, typeName?, h.candidates_eq]

theorem isPackage_eq (h : a.Reorders b) : a.isPackage = b.isPackage := by
  have hnames : a.names.Perm b.names := h.perm.map _
  funext name
  rw [isPackage, isPackage, h.knows_eq, hnames.any_eq]

/-- **The same classes in another order are the same source of knowledge.** -/
theorem typeSystem_eq (h : a.Reorders b) : a.typeSystem = b.typeSystem := by
  simp only [typeSystem, h.typeInfo?_eq, h.typeName?_eq, h.candidates_eq, h.isPackage_eq, h.find?_eq,
    h.ancestors_eq, h.constructors_eq, size, h.perm.length_eq]

/-- Declarations are completed alike over either order. -/
theorem complete_eq (h : a.Reorders b) : a.complete = b.complete := by
  have hconstructor : a.constructor = b.constructor := by
    funext d c
    have hparameter : a.parameter = b.parameter := by
      funext scope p
      rw [parameter, parameter, h.typeName?_eq]
    rw [constructor, constructor, scopeOf, scopeOf, h.packageOf?_eq, hparameter]
  funext d
  rw [complete, complete, hconstructor]

end Reorders

/-! ### Indexing -/

theorem reorders_entries {ds ds' : List ClassDecl} (h : ds.Perm ds')
    (hn : (ds.map ClassDecl.fqn).Nodup) : (entries ds).Reorders (entries ds') :=
  ⟨h.map entryOf, by rwa [names_entries]⟩

/-- The indexes of declarations in two orders hold the same classes. -/
theorem reorders_of_ofDecls {ds ds' : List ClassDecl} (h : ds.Perm ds') {index index' : ClassIndex}
    (hi : ofDecls ds = .ok index) (hi' : ofDecls ds' = .ok index') : index.Reorders index' := by
  obtain ⟨hn, hclasses⟩ := ofDecls_eq_ok.1 hi
  obtain ⟨-, hclasses'⟩ := ofDecls_eq_ok.1 hi'
  rw [← (reorders_entries h hn).complete_eq] at hclasses'
  exact ⟨perm_of_mapM h hclasses hclasses', by rwa [names_of_ofDecls hi]⟩

/-- **The order of declarations does not matter.**  Declarations in two orders can be indexed in both or in
neither.  If they can, the two indexes agree on the description, the constructors and the ancestors of every
class, on what every name may denote in every scope, and on which names are packages. -/
theorem ofDecls_perm {ds ds' : List ClassDecl} (h : ds.Perm ds') :
    ((∃ index, ofDecls ds = .ok index) ↔ ∃ index, ofDecls ds' = .ok index) ∧
      ∀ index index', ofDecls ds = .ok index → ofDecls ds' = .ok index' → ∀ name,
        index.typeInfo? name = index'.typeInfo? name ∧
          index.constructors name = index'.constructors name ∧
          index.ancestors name = index'.ancestors name ∧
          (∀ scope, index.candidates scope name = index'.candidates scope name) ∧
          index.isPackage name = index'.isPackage name := by
  refine ⟨?_, fun index index' hi hi' name => ?_⟩
  · rw [exists_ofDecls_eq_ok, exists_ofDecls_eq_ok, (h.map ClassDecl.fqn).nodup_iff]
    simp only [h.mem_iff]
  · have hts : index.typeSystem = index'.typeSystem := (reorders_of_ofDecls h hi hi').typeSystem_eq
    exact ⟨congrFun (congrArg TypeSystem.typeInfo? hts) name,
      congrFun (congrArg TypeSystem.constructors hts) name,
      congrFun (congrArg TypeSystem.ancestors hts) name,
      congrFun (congrFun (congrArg TypeSystem.typeCandidates hts) name),
      congrFun (congrArg TypeSystem.isPackage hts) name⟩

/-- A class whose constructor takes a class that is declared after it. -/
def lineAndPoint : List ClassDecl :=
  [{ fqn := "a.Line", constructors := [{ parameters := [{ name := "ends", type := "Point[]" }] }] },
    { fqn := "a.Point", superclass := some "a.Line" }]

/-- A line takes points of its package, also where these are declared first. -/
theorem ofDecls_perm_lineAndPoint : lineAndPoint.Perm lineAndPoint.reverse ∧
    ∃ index index', ofDecls lineAndPoint = .ok index ∧ ofDecls lineAndPoint.reverse = .ok index' ∧
      (index.constructors "a.Line").map (·.fqn) = ["a.Line#Line(a.Point[])"] ∧
      index'.constructors "a.Line" = index.constructors "a.Line" := by
  have hperm : lineAndPoint.Perm lineAndPoint.reverse := (List.reverse_perm _).symm
  refine ⟨hperm, ?_⟩
  have hline : (ofDecls lineAndPoint).toOption.map
      (fun index => (index.constructors "a.Line").map (·.fqn)) = some ["a.Line#Line(a.Point[])"] := by
    decide +kernel
  cases hi : ofDecls lineAndPoint with
  | error e =>
    rw [hi] at hline
    cases hline
  | ok index =>
    rw [hi] at hline
    obtain ⟨hboth, hagree⟩ := ofDecls_perm hperm
    obtain ⟨index', hi'⟩ := hboth.1 ⟨index, hi⟩
    obtain ⟨-, hconstructors, -⟩ := hagree index index' hi hi' "a.Line"
    exact ⟨index, index', rfl, hi', Option.some.inj hline, hconstructors.symm⟩

end ClassIndex
end GroovyNew
