/-
# An index of declared classes

`ClassIndex` holds the declared classes in declaration order, no two of one name.  Classes that are
not declared may still be well known (`WellKnown`); a class is *known* in either case.

A nested class names its outer class.  `outerChain` follows these names from a class outwards; it
visits each declared class at most once, so on declarations without a cycle the bound by the number
of classes cuts nothing off.

`ancestors` walks the superclasses and interfaces breadth first.  A name enters the walk once,
whatever cycles and repetitions the declarations contain.
-/

import GroovyNew.ClassDecl
import GroovyNew.WellKnown

namespace GroovyNew

/-- A declared class as the index keeps it. -/
structure IndexedClass where
  info : TypeInfo
  superclass : Option String
  interfaces : List String
  constructors : List MemberInfo
  deriving DecidableEq, Inhabited, Repr

/-- The declared classes, in declaration order. -/
structure ClassIndex where
  classes : List IndexedClass := []
  deriving DecidableEq, Inhabited, Repr

namespace ClassIndex

/-- The declared class of a name. -/
def find? (index : ClassIndex) (fqn : String) : Option IndexedClass :=
  index.classes.find? fun c => c.info.fqn == fqn

/-- The class is declared. -/
def declares (index : ClassIndex) (fqn : String) : Bool := (index.find? fqn).isSome

/-- The class is declared or well known. -/
def knows (index : ClassIndex) (fqn : String) : Bool :=
  index.declares fqn || WellKnown.contains fqn

/-- The names of the declared classes. -/
def names (index : ClassIndex) : List String := index.classes.map (·.info.fqn)

/-- The number of declared classes. -/
def size (index : ClassIndex) : Nat := index.classes.length

/-- The description of a known class. -/
def typeInfo? (index : ClassIndex) (fqn : String) : Option TypeInfo :=
  match index.find? fqn with
  | some c => some c.info
  | none => WellKnown.typeInfo? fqn

/-- The constructors of a declared class. -/
def constructors (index : ClassIndex) (fqn : String) : List MemberInfo :=
  match index.find? fqn with
  | some c => c.constructors
  | none => []

/-! ### Outwards -/

/-- The outer class of a declared class. -/
def outer? (index : ClassIndex) (fqn : String) : Option String :=
  (index.find? fqn).bind (·.info.outer)

/-- The class and the classes around it, at most `steps` of them after the first. -/
def outerChainFrom (index : ClassIndex) : (steps : Nat) → String → List String
  | 0, fqn => [fqn]
  | steps + 1, fqn =>
    match index.outer? fqn with
    | some outer => fqn :: outerChainFrom index steps outer
    | none => [fqn]

/-- The class and the classes around it, from the inside out. -/
def outerChain (index : ClassIndex) (fqn : String) : List String :=
  index.outerChainFrom index.size fqn

theorem outerChainFrom_ne_nil (index : ClassIndex) (steps : Nat) (fqn : String) :
    index.outerChainFrom steps fqn ≠ [] := by
  cases steps with
  | zero => simp [outerChainFrom]
  | succ n => unfold outerChainFrom; split <;> simp

theorem length_outerChainFrom_le (index : ClassIndex) (steps : Nat) (fqn : String) :
    (index.outerChainFrom steps fqn).length ≤ steps + 1 := by
  induction steps generalizing fqn with
  | zero => simp [outerChainFrom]
  | succ n ih =>
    unfold outerChainFrom; split
    · simpa using ih _
    · simp

/-- The outermost class around a class. -/
def outermost (index : ClassIndex) (fqn : String) : String :=
  (index.outerChain fqn).getLastD fqn

/-- The package of a class: what stands before the name of its outermost class. -/
def packageOf? (index : ClassIndex) (fqn : String) : Option String :=
  Name.package? (index.outermost fqn)

/-! ### Upwards -/

/-- The superclass and the interfaces that a declared class names. -/
def parents (index : ClassIndex) (fqn : String) : List String :=
  match index.find? fqn with
  | some c => c.superclass.toList ++ c.interfaces
  | none => []

/-- The names in `parents` that are not in `seen`, each once. -/
def unseen (seen : List String) : (parents : List String) → List String
  | [] => []
  | p :: ps => if seen.contains p then unseen seen ps else p :: unseen (p :: seen) ps

/-- What `unseen` keeps. -/
@[simp] theorem mem_unseen {name : String} {seen ps : List String} :
    name ∈ unseen seen ps ↔ name ∈ ps ∧ name ∉ seen := by
  induction ps generalizing seen with
  | nil => simp [unseen]
  | cons p ps ih =>
    unfold unseen
    split
    · rename_i h
      rw [List.contains_iff_mem] at h
      rw [ih, List.mem_cons]
      constructor
      · rintro ⟨hm, hs⟩; exact ⟨.inr hm, hs⟩
      · rintro ⟨rfl | hm, hs⟩
        · exact absurd h hs
        · exact ⟨hm, hs⟩
    · rename_i h
      rw [List.contains_iff_mem] at h
      simp only [List.mem_cons, ih, not_or]
      constructor
      · rintro (rfl | ⟨hm, _, hs⟩)
        · exact ⟨.inl rfl, h⟩
        · exact ⟨.inr hm, hs⟩
      · rintro ⟨rfl | hm, hs⟩
        · exact .inl rfl
        · by_cases e : name = p
          · exact .inl e
          · exact .inr ⟨hm, e, hs⟩

theorem nodup_unseen (seen ps : List String) : (unseen seen ps).Nodup := by
  induction ps generalizing seen with
  | nil => simp [unseen]
  | cons p ps ih =>
    unfold unseen
    split
    · exact ih seen
    · rw [List.nodup_cons]
      exact ⟨by simp, ih (p :: seen)⟩

/-- A breadth-first walk from the names in `queue`: the names found, in the order in which they are
found.  A name in `seen` is not found again. -/
def walk (index : ClassIndex) : (fuel : Nat) → (queue seen : List String) → List String
  | 0, _, _ => []
  | _ + 1, [], _ => []
  | fuel + 1, fqn :: queue, seen =>
    let found := unseen seen (index.parents fqn)
    found ++ walk index fuel (queue ++ found) (found ++ seen)

/-- The number of superclasses and interfaces that the declarations name. -/
def parentCount (index : ClassIndex) : Nat :=
  (index.classes.flatMap fun c => c.superclass.toList ++ c.interfaces).length

/-- All that a class inherits from, nearest first. -/
def ancestors (index : ClassIndex) (fqn : String) : List String :=
  index.walk (index.parentCount + 1) [fqn] [fqn]

end ClassIndex
end GroovyNew
