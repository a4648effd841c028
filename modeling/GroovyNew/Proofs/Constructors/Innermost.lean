/-
# The innermost enclosing instance

The classes around a place form a chain: the class in which it stands, the outer class of that, and so on
(`ClassIndex.around?`).  `TypeSystem.enclosingInstance?_innermost` says which of them gives the enclosing
instance of a new inner class: the first one that is the outer class or inherits from it, if each class
before it carries an instance of the next (`ClassIndex.IsFirstAround`).  So the search does not get past a
class that carries none: one that is static, of another kind than a class, or not declared.

The search takes at most as many steps as there are declared classes, and these are enough, even if outer
classes form a cycle (`ClassIndex.IsFirstAround.le_size`): a class that is met twice on the way would lead
to the class that is found before it is found first.
-/

import GroovyNew.Proofs.ClassIndex.Indexing
import GroovyNew.Proofs.Constructors.Enclosing
import Mathlib.Data.List.Nodup
import Mathlib.Data.List.Perm.Subperm

namespace GroovyNew
namespace ClassIndex

variable {index : ClassIndex} {outer start next c : String} {n : Nat}

/-! ### Outwards -/

/-- The class a number of steps outwards from a class, which itself is no step away. -/
def around? (index : ClassIndex) : (n : Nat) → String → Option String
  | 0, fqn => some fqn
  | n + 1, fqn => (index.outer? fqn).bind (index.around? n)

/-- Steps outwards can be taken one after the other. -/
theorem around?_add (m n : Nat) (fqn : String) :
    index.around? (m + n) fqn = (index.around? m fqn).bind (index.around? n) := by
  induction m generalizing fqn with
  | zero => rw [Nat.zero_add, around?, Option.bind_some]
  | succ m ih =>
    rw [Nat.add_right_comm, around?, around?, Option.bind_assoc]
    exact congrArg _ (funext ih)

/-- The class is known to be inner. -/
def IsInnerClass (index : ClassIndex) (fqn : String) : Prop :=
  ∃ info, index.typeInfo? fqn = some info ∧ info.isInner = true

/-- An inner class is declared. -/
theorem IsInnerClass.exists_find? (h : index.IsInnerClass c) :
    ∃ indexed, index.find? c = some indexed ∧ indexed.info.isInner = true := by
  obtain ⟨info, hinfo, hinner⟩ := h
  unfold typeInfo? at hinfo
  split at hinfo
  · rename_i indexed hfind
    obtain rfl := Option.some.inj hinfo
    exact ⟨indexed, hfind, hinner⟩
  · obtain ⟨entry, -, rfl⟩ := Option.map_eq_some_iff.1 hinfo
    cases hinner

theorem IsInnerClass.mem_names (h : index.IsInnerClass c) : c ∈ index.names := by
  obtain ⟨indexed, hfind, -⟩ := h.exists_find?
  rw [← declares_iff, declares, hfind]
  rfl

/-- The class carries no instance of a class around it: it is not declared, or it is static or of another
kind than a class. -/
def EndsSearch (index : ClassIndex) (fqn : String) : Prop :=
  index.declares fqn = false ∨ ∃ info, index.typeInfo? fqn = some info ∧
    (info.hasModifier "static" = true ∨ info.kind ≠ .classType)

theorem EndsSearch.not_isInnerClass (h : index.EndsSearch c) : ¬index.IsInnerClass c := by
  intro hclass
  obtain hdeclares | ⟨info, hinfo, hmodifiers⟩ := h
  · rw [declares_iff.2 hclass.mem_names] at hdeclares
    cases hdeclares
  · obtain ⟨info', hinfo', hinner⟩ := hclass
    obtain rfl := Option.some.inj (hinfo.symm.trans hinfo')
    simp only [TypeInfo.isInner, Bool.and_eq_true, beq_iff_eq, Bool.not_eq_true'] at hinner
    obtain hstatic | hkind := hmodifiers
    · rw [hstatic] at hinner
      cases hinner.2
    · exact hkind hinner.1.2

/-- The search goes on from an inner class, to the outer class. -/
theorem enclosing?_eq_some_iff : (index.typeInfo? start).bind TypeInfo.enclosing? = some next ↔
    index.IsInnerClass start ∧ index.outer? start = some next := by
  constructor
  · intro h
    obtain ⟨info, hinfo, hnext⟩ := Option.bind_eq_some_iff.1 h
    obtain ⟨hinner, houter⟩ := Option.ite_none_right_eq_some.1 hnext
    have hclass : index.IsInnerClass start := ⟨info, hinfo, hinner⟩
    obtain ⟨indexed, hfind, -⟩ := hclass.exists_find?
    rw [typeInfo?, hfind] at hinfo
    obtain rfl := Option.some.inj hinfo
    exact ⟨hclass, by rw [outer?, hfind]; exact houter⟩
  · rintro ⟨hclass, houter⟩
    obtain ⟨indexed, hfind, hinner⟩ := hclass.exists_find?
    rw [outer?, hfind] at houter
    rw [typeInfo?, hfind]
    exact (if_pos hinner).trans houter

/-! ### The first class that fits -/

/-- `n` steps outwards from `start` is the first class that is `outer` or inherits from it, and the classes
before it are inner classes. -/
structure IsFirstAround (index : ClassIndex) (outer start c : String) (n : Nat) : Prop where
  around?_eq : index.around? n start = some c
  inherits : index.typeSystem.isInheritor c outer = true
  before : ∀ m < n, ∀ b, index.around? m start = some b →
    index.typeSystem.isInheritor b outer = false ∧ index.IsInnerClass b

theorem isFirstAround_zero_iff : index.IsFirstAround outer start c 0 ↔
    start = c ∧ index.typeSystem.isInheritor start outer = true := by
  constructor
  · intro h
    obtain rfl := Option.some.inj h.around?_eq
    exact ⟨rfl, h.inherits⟩
  · rintro ⟨rfl, hinherits⟩
    exact ⟨rfl, hinherits, fun m hm => absurd hm (Nat.not_lt_zero m)⟩

/-- Past an inner class that does not fit, the first class is that from the next class outwards. -/
theorem isFirstAround_succ_iff : index.IsFirstAround outer start c (n + 1) ↔
    index.typeSystem.isInheritor start outer = false ∧ index.IsInnerClass start ∧
      ∃ next, index.outer? start = some next ∧ index.IsFirstAround outer next c n := by
  constructor
  · intro h
    obtain ⟨hnot, hinner⟩ := h.before 0 (Nat.zero_lt_succ n) start rfl
    obtain ⟨next, hnext, haround⟩ := Option.bind_eq_some_iff.1 h.around?_eq
    refine ⟨hnot, hinner, next, hnext, haround, h.inherits, fun m hm b hb => ?_⟩
    refine h.before (m + 1) (Nat.succ_lt_succ hm) b ?_
    rw [around?, hnext]
    exact hb
  · rintro ⟨hnot, hinner, next, hnext, h⟩
    refine ⟨?_, h.inherits, fun m hm b hb => ?_⟩
    · rw [around?, hnext]
      exact h.around?_eq
    · cases m with
      | zero =>
        obtain rfl := Option.some.inj hb
        exact ⟨hnot, hinner⟩
      | succ m =>
        rw [around?, hnext] at hb
        exact h.before m (Nat.lt_of_succ_lt_succ hm) b hb

/-- **A bounded search finds the first class that fits**, if it is within the bound. -/
theorem enclosingFrom?_eq_some_iff {steps : Nat} :
    index.typeSystem.enclosingFrom? outer steps start = some c ↔
      ∃ n < steps, index.IsFirstAround outer start c n := by
  induction steps generalizing start with
  | zero => simp [TypeSystem.enclosingFrom?]
  | succ steps ih =>
    rw [Nat.exists_lt_succ_left, isFirstAround_zero_iff, TypeSystem.enclosingFrom?]
    cases hinherits : index.typeSystem.isInheritor start outer with
    | true => simp [isFirstAround_succ_iff, hinherits]
    | false =>
      simp only [Bool.false_eq_true, if_false, and_false, false_or]
      cases hnext : (index.typeSystem.typeInfo? start).bind TypeInfo.enclosing? with
      | some next =>
        obtain ⟨hinner, houter⟩ := enclosing?_eq_some_iff.1 hnext
        simp [ih, isFirstAround_succ_iff, hinherits, hinner, houter]
      | none =>
        refine iff_of_false (Option.some_ne_none c).symm ?_
        rintro ⟨n, -, h⟩
        obtain ⟨-, hinner, next, houter, -⟩ := isFirstAround_succ_iff.1 h
        cases hnext.symm.trans (enclosing?_eq_some_iff.2 ⟨hinner, houter⟩)

/-! ### The bound -/

/-- Before the first class that fits, no class is met twice. -/
theorem IsFirstAround.around?_ne (h : index.IsFirstAround outer start c n) {i j : Nat} (hij : i < j)
    (hj : j < n) : index.around? i start ≠ index.around? j start := by
  intro heq
  -- From the second meeting `n - j` steps lead to `c`, and so they do from the first one.
  have hlast : index.around? (i + (n - j)) start = some c := by
    rw [around?_add, heq, ← around?_add, Nat.add_sub_cancel' (Nat.le_of_lt hj)]
    exact h.around?_eq
  have hnot := (h.before (i + (n - j)) (by omega) c hlast).1
  rw [h.inherits] at hnot
  cases hnot

/-- **The first class that fits is no more steps away than classes are declared.** -/
theorem IsFirstAround.le_size (h : index.IsFirstAround outer start c n) : n ≤ index.size := by
  have hnodup : ((List.range n).map (index.around? · start)).Nodup := by
    refine List.nodup_range.map_on fun i hi j hj heq => ?_
    rw [List.mem_range] at hi hj
    obtain hij | rfl | hij := Nat.lt_trichotomy i j
    · exact absurd heq (h.around?_ne hij hj)
    · rfl
    · exact absurd heq.symm (h.around?_ne hij hi)
  have hsubset : (List.range n).map (index.around? · start) ⊆ index.names.map some := by
    intro b hb
    obtain ⟨m, hm, rfl⟩ := List.mem_map.1 hb
    have hmn : m < n := List.mem_range.1 hm
    have hway := h.around?_eq
    rw [← Nat.add_sub_cancel' (Nat.le_of_lt hmn), around?_add] at hway
    obtain ⟨b, hb, -⟩ := Option.bind_eq_some_iff.1 hway
    rw [hb]
    exact List.mem_map_of_mem (h.before m hmn b hb).2.mem_names
  simpa [names, size] using (hnodup.subperm hsubset).length_le

end ClassIndex

namespace TypeSystem

open ClassIndex

/-- The search for the enclosing instance finds the first class that fits, from the class around the call. -/
theorem enclosingInstance?_eq_some_iff {index : ClassIndex} {ctx : Context} {inner : TypeInfo}
    {t : TypeRef} : index.typeSystem.enclosingInstance? ctx inner = some t ↔
      ∃ outer start c n, (inner.isInner = true ∧ inner.outer = some outer) ∧ ctx.isStatic = false ∧
        ctx.enclosingClass = some start ∧ index.IsFirstAround outer start c n ∧ t = .id c := by
  constructor
  · intro h
    unfold enclosingInstance? at h
    split at h
    · rename_i outer start houter hstart
      split at h
      · cases h
      · rename_i hstatic
        obtain ⟨c, hc, rfl⟩ := Option.map_eq_some_iff.1 h
        obtain ⟨n, -, hfirst⟩ := enclosingFrom?_eq_some_iff.1 hc
        exact ⟨outer, start, c, n, Option.ite_none_right_eq_some.1 houter, Bool.eq_false_iff.2 hstatic,
          hstart, hfirst, rfl⟩
    · cases h
  · rintro ⟨outer, start, c, n, ⟨hinner, houter⟩, hstatic, hstart, hfirst, rfl⟩
    have hfound : index.typeSystem.enclosingFrom? outer (index.size + 1) start = some c :=
      enclosingFrom?_eq_some_iff.2 ⟨n, Nat.lt_succ_of_le hfirst.le_size, hfirst⟩
    rw [enclosingInstance?, TypeInfo.enclosing?, if_pos hinner, houter, hstart, hstatic]
    exact congrArg (Option.map TypeRef.id) hfound

/-- **The enclosing instance is the innermost one that there is.**  It is an instance of a class exactly if
an inner class is constructed in a place that is not static, and that class is the first one outwards from
the place that is the outer class or inherits from it, all before it being inner classes.  It is accepted as
an instance of the outer class, and no class on the way to it ends the search. -/
theorem enclosingInstance?_innermost (index : ClassIndex) (ctx : Context) (inner : TypeInfo) :
    (∀ t, index.typeSystem.enclosingInstance? ctx inner = some t ↔
      ∃ outer start c n, (inner.isInner = true ∧ inner.outer = some outer) ∧ ctx.isStatic = false ∧
        ctx.enclosingClass = some start ∧ index.IsFirstAround outer start c n ∧ t = .id c) ∧
      (∀ t outer, index.typeSystem.enclosingInstance? ctx inner = some t → inner.outer = some outer →
        index.typeSystem.isAssignable t (.id outer) = true) ∧
      ∀ start c, ctx.enclosingClass = some start →
        index.typeSystem.enclosingInstance? ctx inner = some (.id c) →
        ∃ n, index.around? n start = some c ∧
          ∀ m b, index.around? m start = some b → index.EndsSearch b → n ≤ m := by
  refine ⟨fun t => enclosingInstance?_eq_some_iff, fun t outer h houter => ?_, fun start c hstart h => ?_⟩
  · obtain ⟨outer', start, c, n, ⟨-, houter'⟩, -, -, hfirst, rfl⟩ := enclosingInstance?_eq_some_iff.1 h
    obtain rfl := Option.some.inj (houter.symm.trans houter')
    exact isAssignable_of_isInheritor hfirst.inherits
  · obtain ⟨outer, start', c', n, -, -, hstart', hfirst, heq⟩ := enclosingInstance?_eq_some_iff.1 h
    obtain rfl := Option.some.inj (hstart.symm.trans hstart')
    obtain rfl := TypeRef.id.inj heq
    refine ⟨n, hfirst.around?_eq, fun m b hb hends => ?_⟩
    by_contra hlt
    exact hends.not_isInnerClass (hfirst.before m (Nat.lt_of_not_le hlt) b hb).2

/-- `Outer` has the inner class `Part`, which extends it and has the inner class `Part.Detail`, and the static
class `Box` with the inner class `Box.Lid`. -/
def parts : ClassIndex :=
  entries [{ fqn := "Outer" }, { fqn := "Outer.Part", outer := some "Outer", superclass := some "Outer" },
    { fqn := "Outer.Part.Detail", outer := some "Outer.Part" },
    { fqn := "Outer.Box", outer := some "Outer", modifiers := ["static"] },
    { fqn := "Outer.Box.Lid", outer := some "Outer.Box" }]

/-- In a detail, a new part belongs to the part around it, which is an `Outer` and nearer than the
outermost one.  In a lid it belongs to nothing, since the box around it is static. -/
example : (["Outer", "Outer.Part.Detail", "Outer.Box.Lid"].map fun fqn =>
      parts.typeSystem.enclosingInstance? { enclosingClass := some fqn }
        { fqn := "Outer.Part", outer := some "Outer" }) =
    [some (.id "Outer"), some (.id "Outer.Part"), none] := by
  decide +kernel

end TypeSystem
end GroovyNew
