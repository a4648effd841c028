/-
# Types that the file declares

The types that a file declares come before everything else that a simple name may denote.  They are recognised
by the end of their names, a dot and the simple name (`ClassIndex.declaredType?`), so a type of the unnamed
package is not recognised.  `ClassIndex.candidates_eq_declared_iff` says when the first declared type of a
simple name is what the name denotes: if it lies in a package; otherwise only if no declared type of that name
does and the name would denote it without any declaration in the file.  An import of the same simple name is
enough to prevent that (`ClassIndex.candidates_ne_declared_widget`).

For a name without dots, to end in a dot and the name is to have a package and the name as last segment
(`Name.isMemberNamed_iff_lastSegment`).
-/

import GroovyNew.Proofs.ClassIndex.Indexing
import Mathlib.Data.List.TakeWhile
import Mathlib.Tactic.ByContra

namespace GroovyNew

/-! ### Packages and last segments -/

namespace Name

variable {fqn outer name : String}

/-- What follows the part before the first dot begins with the dot. -/
theorem exists_dropWhile_eq {cs : List Char} (h : '.' ∈ cs) :
    ∃ rest, cs.dropWhile (· != '.') = '.' :: rest := by
  cases hdrop : cs.dropWhile (· != '.') with
  | nil => cases List.dropWhile_eq_nil_iff.1 hdrop '.' h
  | cons c rest =>
    have hc := List.head?_dropWhile_not (· != '.') cs
    rw [hdrop] at hc
    obtain rfl : c = '.' := by simpa using hc
    exact ⟨rest, rfl⟩

/-- A name with a package is the package, a dot and the last segment. -/
theorem eq_qualify_of_package? (h : package? fqn = some outer) :
    fqn = qualify outer (lastSegment fqn) := by
  unfold package? at h
  split at h
  · rename_i hdot
    obtain rfl := Option.some.inj h
    have hmem : '.' ∈ fqn.toList.reverse := List.mem_reverse.2 (List.contains_iff_mem.1 hdot)
    obtain ⟨rest, hrest⟩ := exists_dropWhile_eq hmem
    have hsplit : fqn.toList.reverse = fqn.toList.reverse.takeWhile (· != '.') ++ '.' :: rest := by
      rw [← hrest, List.takeWhile_append_dropWhile]
    refine String.toList_injective ?_
    rw [hrest, ← List.reverse_inj]
    simpa [qualify, lastSegment] using hsplit
  · cases h

/-- A last segment is a simple name. -/
theorem not_mem_lastSegment (fqn : String) : '.' ∉ (lastSegment fqn).toList := by
  intro hdot
  rw [lastSegment, String.toList_ofList, List.mem_reverse] at hdot
  have hne := List.mem_takeWhile_imp hdot
  cases hne

theorem lastSegment_qualify (h : '.' ∉ name.toList) : lastSegment (qualify outer name) = name := by
  have hreverse : ∀ c ∈ name.toList.reverse, (c != '.') = true := fun c hc => by
    rw [bne_iff_ne]
    rintro rfl
    exact h (List.mem_reverse.1 hc)
  simp [lastSegment, qualify, List.takeWhile_append_of_pos hreverse]

theorem isSome_package?_qualify (outer name : String) : (package? (qualify outer name)).isSome = true := by
  simp [package?, qualify]

/-- **A member of a simple name has a package and the name as its last segment.** -/
theorem isMemberNamed_iff_lastSegment (h : '.' ∉ name.toList) :
    isMemberNamed fqn name = true ↔ (package? fqn).isSome = true ∧ lastSegment fqn = name := by
  constructor
  · intro hmember
    obtain ⟨cs, hcs⟩ := isMemberNamed_iff.1 hmember
    obtain rfl : fqn = qualify (String.ofList cs) name := by
      refine String.toList_injective ?_
      rw [← hcs]
      simp [qualify]
    exact ⟨isSome_package?_qualify _ name, lastSegment_qualify h⟩
  · rintro ⟨hpackage, rfl⟩
    obtain ⟨outer, houter⟩ := Option.isSome_iff_exists.1 hpackage
    have hmember := isMemberNamed_qualify outer (lastSegment fqn)
    rwa [← eq_qualify_of_package? houter] at hmember

theorem splitFirst?_eq_none (h : '.' ∉ name.toList) : splitFirst? name = none :=
  if_neg fun hdot => h (List.contains_iff_mem.1 hdot)

end Name

namespace ClassIndex

variable {scope : Scope} {name fqn : String}

/-- A simple name denotes the declared type that is recognised under it, and without one what it would denote
if the file declared nothing. -/
theorem candidates_eq_declaredType? (index : ClassIndex) (h : '.' ∉ name.toList) :
    index.candidates scope name = match declaredType? scope name with
      | some fqn => [fqn]
      | none => index.candidates { scope with declaredTypes := [] } name := by
  unfold candidates
  rw [Name.splitFirst?_eq_none h]
  cases hdeclared : declaredType? scope name with
  | some fqn => simp only [simpleCandidates, hdeclared]
  | none =>
    simp only [simpleCandidates, hdeclared]
    rfl

/-- The first declared type of a simple name is recognised under it if it lies in a package. -/
theorem declaredType?_of_package? (h : '.' ∉ name.toList)
    (hfirst : scope.declaredTypes.find? (Name.lastSegment · == name) = some fqn)
    (hpackage : (Name.package? fqn).isSome = true) : declaredType? scope name = some fqn := by
  obtain ⟨hname, before, after, htypes, hbefore⟩ := List.find?_eq_some_iff_append.1 hfirst
  refine List.find?_eq_some_iff_append.2 ⟨?_, before, after, htypes, fun d hd => ?_⟩
  · exact (Name.isMemberNamed_iff_lastSegment h).2 ⟨hpackage, eq_of_beq hname⟩
  · have hother := hbefore d hd
    simp only [Bool.not_eq_true', beq_eq_false_iff_ne] at hother ⊢
    rw [Bool.eq_false_iff, Ne, Name.isMemberNamed_iff_lastSegment h]
    exact fun hmember => hother hmember.2

/-- **When a declared type shadows everything else.**  The first declared type with a simple name as last
segment is what the name denotes, and nothing else is, if it lies in a package.  If it is of the unnamed
package, this is so only if no declared type of the name lies in a package and the name denotes it anyhow. -/
theorem candidates_eq_declared_iff (index : ClassIndex)
    (hfirst : scope.declaredTypes.find? (Name.lastSegment · == name) = some fqn) :
    index.candidates scope name = [fqn] ↔
      (Name.package? fqn).isSome = true ∨
        (∀ d ∈ scope.declaredTypes, Name.lastSegment d = name → Name.package? d = none) ∧
          index.candidates { scope with declaredTypes := [] } name = [fqn] := by
  have h : '.' ∉ name.toList := by
    have hlast := List.find?_some hfirst
    exact eq_of_beq hlast ▸ Name.not_mem_lastSegment fqn
  rw [candidates_eq_declaredType? index h]
  by_cases hpackage : (Name.package? fqn).isSome = true
  · simp only [declaredType?_of_package? h hfirst hpackage, hpackage, true_or]
  cases hdeclared : declaredType? scope name with
  | some d =>
    -- Another declared type of the name is recognised, which has a package and so is not the first one.
    have hmember : Name.isMemberNamed d name = true := by simpa using List.find?_some hdeclared
    obtain ⟨hd, hname⟩ := (Name.isMemberNamed_iff_lastSegment h).1 hmember
    constructor
    · intro heq
      obtain rfl := List.singleton_inj.1 heq
      exact absurd hd hpackage
    · rintro (hfqn | ⟨hunnamed, -⟩)
      · exact absurd hfqn hpackage
      · rw [hunnamed d (List.mem_of_find?_eq_some hdeclared) hname] at hd
        cases hd
  | none =>
    have hunnamed : ∀ d ∈ scope.declaredTypes, Name.lastSegment d = name → Name.package? d = none := by
      intro d hd hname
      by_contra hsome
      exact List.find?_eq_none.1 hdeclared d hd
        ((Name.isMemberNamed_iff_lastSegment h).2 ⟨Option.isSome_iff_ne_none.2 hsome, hname⟩)
    constructor
    · exact fun heq => .inr ⟨hunnamed, heq⟩
    · rintro (hfqn | ⟨-, heq⟩)
      · exact absurd hfqn hpackage
      · exact heq

/-- Three classes of one simple name, one of them without package. -/
def widgets : ClassIndex :=
  entries [{ fqn := "Widget" }, { fqn := "org.a.Widget" }, { fqn := "org.app.Widget" }]

/-- A file that declares the widget of its package and imports another one. -/
def namedFile : Scope where
  package := some "org.app"
  imports := ["org.a.Widget"]
  declaredTypes := ["org.app.Gadget", "org.app.Widget"]

/-- A file of the unnamed package that declares a widget and imports another one. -/
def unnamedFile : Scope where
  imports := ["org.a.Widget"]
  declaredTypes := ["Gadget", "Widget"]

/-- The widget of a package shadows the imported one. -/
theorem candidates_declared_widget :
    namedFile.declaredTypes.find? (Name.lastSegment · == "Widget") = some "org.app.Widget" ∧
      widgets.candidates namedFile "Widget" = ["org.app.Widget"] := by
  have hfirst : namedFile.declaredTypes.find? (Name.lastSegment · == "Widget") =
      some "org.app.Widget" := by decide +kernel
  exact ⟨hfirst, (candidates_eq_declared_iff widgets hfirst).2 (.inl (by decide +kernel))⟩

/-- The widget of the unnamed package does not shadow the imported one. -/
theorem candidates_ne_declared_widget :
    unnamedFile.declaredTypes.find? (Name.lastSegment · == "Widget") = some "Widget" ∧
      widgets.candidates unnamedFile "Widget" = ["org.a.Widget"] ∧
      widgets.candidates unnamedFile "Widget" ≠ ["Widget"] := by
  decide +kernel

end ClassIndex
end GroovyNew
