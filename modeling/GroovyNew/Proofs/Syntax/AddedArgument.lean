/-
# What adding a named argument changes

`NewExpr.addNamed` writes into one child.  Which one it is, the readers decide in their own way: they take
the arguments of the first anonymous declaration, else the first argument list.  `NewChild.IsFirstOwner`
singles this child out of the list of children, and `NewExpr.addNamed_cases` says all that the edit can do:
it writes into the first owner of arguments, or puts a new argument list before the trailing trivia.  The rest
follows from the two cases:

| statement | |
| --- | --- |
| `NewExpr.findSome?_addNamed` | what is read off children without their arguments stays the same |
| `NewExpr.arguments?_addNamed` | the arguments that are read have the new one at the end |
| `NewExpr.addNamedAt?_eq` | the place that is searched first always holds an owner of arguments |

`NewExpr.addNamed_spec` puts them together.
-/

import GroovyNew.Syntax.Edit
import Mathlib.Data.List.DropRight

namespace GroovyNew

/-! ### Changing the first item, inserting before the trailing ones -/

section Lists

variable {α : Type} {p : α → Bool} {f : α → α} {a item : α} {before after trailing items : List α}

theorem modifyFirst_append_cons (hbefore : ∀ b ∈ before, p b = false) (ha : p a = true) :
    modifyFirst p f (before ++ a :: after) = before ++ f a :: after := by
  induction before with
  | nil => exact if_pos ha
  | cons b before ih =>
    rw [List.forall_mem_cons] at hbefore
    rw [List.cons_append, modifyFirst, hbefore.1, if_neg Bool.false_ne_true, ih hbefore.2,
      List.cons_append]

theorem findIdx?_append_cons (hbefore : ∀ b ∈ before, p b = false) (ha : p a = true) :
    (before ++ a :: after).findIdx? p = some before.length := by
  rw [List.findIdx?_append, List.findIdx?_eq_none_iff.2 hbefore, List.findIdx?_cons, ha]
  simp

/-- Items of which one satisfies `p` are split at the first one that does. -/
theorem exists_eq_append_of_any (h : items.any p = true) :
    ∃ before a after, items = before ++ a :: after ∧ p a = true ∧ ∀ b ∈ before, p b = false := by
  obtain ⟨a, ha⟩ := Option.isSome_iff_exists.1 (List.find?_isSome.2 (List.any_eq_true.1 h))
  obtain ⟨hp, before, after, hitems, hbefore⟩ := List.find?_eq_some_iff_append.1 ha
  exact ⟨before, a, after, hitems, hp, fun b hb => by simpa using hbefore b hb⟩

/-- Items are split before the longest final run of items that satisfy `p`. -/
theorem exists_eq_append_trailing (p : α → Bool) (items : List α) :
    ∃ before trailing, items = before ++ trailing ∧ (∀ a ∈ trailing, p a = true) ∧
      ∀ a ∈ before.getLast?, p a = false := by
  refine ⟨items.rdropWhile p, items.rtakeWhile p, List.rdropWhile_append_rtakeWhile.symm,
    fun a ha => List.mem_rtakeWhile_imp ha, fun a ha => ?_⟩
  obtain ⟨hne, rfl⟩ := List.mem_getLast?_eq_getLast ha
  simpa using List.rdropWhile_last_not p items hne

theorem length_takeWhile_reverse_append (htrailing : ∀ a ∈ trailing, p a = true)
    (hbefore : ∀ a ∈ before.getLast?, p a = false) :
    ((before ++ trailing).reverse.takeWhile p).length = trailing.length := by
  have hnone : before.reverse.takeWhile p = [] := by
    rw [← List.head?_reverse] at hbefore
    cases hreverse : before.reverse with
    | nil => rfl
    | cons b bs =>
      rw [hreverse] at hbefore
      rw [List.takeWhile_cons, hbefore b rfl]
      rfl
  rw [List.reverse_append, List.takeWhile_append_of_pos (by simpa using htrailing), hnone,
    List.append_nil, List.length_reverse]

theorem insertBeforeTrailing_append (htrailing : ∀ a ∈ trailing, p a = true)
    (hbefore : ∀ a ∈ before.getLast?, p a = false) :
    insertBeforeTrailing p item (before ++ trailing) = before ++ item :: trailing := by
  rw [insertBeforeTrailing, length_takeWhile_reverse_append htrailing hbefore]
  simp

theorem insertIdx_length_append :
    (before ++ after).insertIdx before.length item = before ++ item :: after := by
  induction before with
  | nil => rfl
  | cons b before ih => exact congrArg (b :: ·) ih

end Lists

/-! ### The owner of the arguments -/

namespace NewChild

variable {before after : List NewChild} {owner : NewChild}

/-- The child is an anonymous declaration or an argument list. -/
def ownsArguments (child : NewChild) : Bool := child.isAnonymous || child.isArguments

/-- The arguments that the child owns; an anonymous declaration may be without. -/
def ownArguments? : NewChild → Option ArgumentList
  | .anonymous c => c.arguments
  | .arguments a => some a
  | _ => none

/-- The arguments that can be written to: those that the child owns, or empty ones that an anonymous
declaration gets; none if the child owns no arguments. -/
def writableArguments? : NewChild → Option ArgumentList
  | .anonymous c => some (c.arguments.getD {})
  | .arguments a => some a
  | _ => none

/-- The child between the others is the first anonymous declaration, or, where there is none, the first
argument list. -/
def IsFirstOwner (before : List NewChild) (owner : NewChild) (after : List NewChild) : Prop :=
  owner.isAnonymous = true ∧ (∀ child ∈ before, child.isAnonymous = false) ∨
    owner.isArguments = true ∧ (∀ child ∈ before, child.isArguments = false) ∧
      ∀ child ∈ before ++ owner :: after, child.isAnonymous = false

theorem IsFirstOwner.ownsArguments (h : IsFirstOwner before owner after) : owner.ownsArguments = true := by
  rw [NewChild.ownsArguments, Bool.or_eq_true]
  exact h.imp And.left And.left

variable (argument : NamedArgument) (child : NewChild)

@[simp] theorem isAnonymous_addNamed : (child.addNamed argument).isAnonymous = child.isAnonymous := by
  cases child <;> rfl

@[simp] theorem isArguments_addNamed : (child.addNamed argument).isArguments = child.isArguments := by
  cases child <;> rfl

theorem writableArguments?_of_ownsArguments (h : child.ownsArguments = true) :
    child.writableArguments? = some (child.ownArguments?.getD {}) := by
  cases child with
  | anonymous c => rfl
  | arguments a => rfl
  | _ => cases h

/-- An owner of arguments owns one more. -/
theorem ownArguments?_addNamed (h : child.ownsArguments = true) :
    (child.addNamed argument).ownArguments? =
      some ((child.ownArguments?.getD {}).pushNamed argument) := by
  cases child with
  | anonymous c => rfl
  | arguments a => rfl
  | _ => cases h

/-- Where there is no owner, a new argument list is the first one. -/
theorem isFirstOwner_arguments {trivia : List NewChild} (a : ArgumentList)
    (h : ∀ child ∈ before ++ trivia, child.ownsArguments = false) :
    IsFirstOwner before (.arguments a) trivia := by
  simp only [NewChild.ownsArguments, Bool.or_eq_false_iff, List.forall_mem_append] at h
  refine .inr ⟨rfl, fun child hchild => (h.1 child hchild).2, ?_⟩
  rw [List.forall_mem_append, List.forall_mem_cons]
  exact ⟨fun child hchild => (h.1 child hchild).1, rfl, fun child hchild => (h.2 child hchild).1⟩

/-- An owner stays the first one. -/
theorem IsFirstOwner.addNamed (h : IsFirstOwner before owner after) :
    IsFirstOwner before (owner.addNamed argument) after := by
  unfold IsFirstOwner at h ⊢
  rw [isAnonymous_addNamed, isArguments_addNamed]
  simpa only [List.forall_mem_append, List.forall_mem_cons, isAnonymous_addNamed] using h

end NewChild

namespace NewExpr

open NewChild

variable {e : NewExpr} {before after trivia : List NewChild} {owner : NewChild}

/-- **The arguments that are read are those of the first owner.** -/
theorem arguments?_of_isFirstOwner (he : e.children = before ++ owner :: after)
    (h : IsFirstOwner before owner after) : e.arguments? = owner.ownArguments? := by
  have hnone : ∀ {child : NewChild}, child.isAnonymous = false → child.anonymous? = none := fun h =>
    Option.not_isSome_iff_eq_none.1 (by simpa [isAnonymous] using h)
  have hnone' : ∀ {child : NewChild}, child.isArguments = false → child.arguments? = none := fun h =>
    Option.not_isSome_iff_eq_none.1 (by simpa [isArguments] using h)
  obtain ⟨howner, hbefore⟩ | ⟨howner, hbefore, hall⟩ := h
  · obtain ⟨c, hc⟩ := Option.isSome_iff_exists.1 howner
    have hanonymous : e.anonymous? = some c := by
      rw [anonymous?, he, List.findSome?_append,
        List.findSome?_eq_none_iff.2 fun child hchild => hnone (hbefore child hchild)]
      simp [hc]
    rw [arguments?, hanonymous]
    cases owner with
    | anonymous d =>
      obtain rfl := Option.some.inj hc
      rfl
    | _ => cases hc
  · obtain ⟨a, ha⟩ := Option.isSome_iff_exists.1 howner
    have hanonymous : e.anonymous? = none := by
      rw [anonymous?, he, List.findSome?_eq_none_iff]
      exact fun child hchild => hnone (hall child hchild)
    rw [arguments?, hanonymous, he, List.findSome?_append,
      List.findSome?_eq_none_iff.2 fun child hchild => hnone' (hbefore child hchild)]
    cases owner with
    | arguments d => rfl
    | _ => cases ha

/-- Without an owner there are no arguments. -/
theorem arguments?_of_forall_not (h : ∀ child ∈ e.children, child.ownsArguments = false) :
    e.arguments? = none := by
  have hanonymous : e.anonymous? = none := by
    refine List.findSome?_eq_none_iff.2 fun child hchild => ?_
    have hchild := h child hchild
    cases child with
    | anonymous c => cases hchild
    | _ => rfl
  rw [arguments?, hanonymous]
  refine List.findSome?_eq_none_iff.2 fun child hchild => ?_
  have hchild := h child hchild
  cases child with
  | arguments a => cases hchild
  | _ => rfl

/-! ### The two cases -/

variable (e) (argument : NamedArgument)

/-- **All that adding a named argument can do.**  It writes into the first owner of arguments, or it puts an
argument list behind the last child that is not trivia. -/
theorem addNamed_cases :
    (∃ before owner after, e.children = before ++ owner :: after ∧ IsFirstOwner before owner after ∧
      e.addNamed argument = { e with children := before ++ owner.addNamed argument :: after }) ∨
    ((∀ child ∈ e.children, child.ownsArguments = false) ∧
      ∃ before trivia, e.children = before ++ trivia ∧ (∀ child ∈ trivia, child.isTrivia = true) ∧
        (∀ child ∈ before.getLast?, child.isTrivia = false) ∧ e.addNamed argument =
          { e with children := before ++ .arguments { named := [argument] } :: trivia }) := by
  unfold addNamed
  split
  · rename_i hany
    obtain ⟨before, owner, after, he, howner, hbefore⟩ := exists_eq_append_of_any hany
    refine .inl ⟨before, owner, after, he, .inl ⟨howner, hbefore⟩, ?_⟩
    rw [he, modifyFirst_append_cons hbefore howner]
  rename_i hnone
  have hnone : ∀ child ∈ e.children, child.isAnonymous = false := by simpa using hnone
  split
  · rename_i hany
    obtain ⟨before, owner, after, he, howner, hbefore⟩ := exists_eq_append_of_any hany
    refine .inl ⟨before, owner, after, he, .inr ⟨howner, hbefore, he ▸ hnone⟩, ?_⟩
    rw [he, modifyFirst_append_cons hbefore howner]
  · rename_i hnone'
    have hnone' : ∀ child ∈ e.children, child.isArguments = false := by simpa using hnone'
    obtain ⟨before, trivia, he, htrivia, hbefore⟩ := exists_eq_append_trailing isTrivia e.children
    refine .inr ⟨fun child hchild => ?_, before, trivia, he, htrivia, hbefore, ?_⟩
    · rw [NewChild.ownsArguments, hnone child hchild, hnone' child hchild, Bool.or_false]
    · rw [he, insertBeforeTrailing_append htrivia hbefore]

/-- What is read off children without their arguments stays the same. -/
theorem findSome?_addNamed {β : Type} {g : NewChild → Option β}
    (howner : ∀ child, g (child.addNamed argument) = g child)
    (hnew : g (.arguments { named := [argument] }) = none) :
    (e.addNamed argument).children.findSome? g = e.children.findSome? g := by
  obtain ⟨before, owner, after, he, -, hadd⟩ | ⟨-, before, trivia, he, -, -, hadd⟩ :=
    e.addNamed_cases argument
  · rw [hadd, he, List.findSome?_append, List.findSome?_append, List.findSome?_cons,
      List.findSome?_cons, howner]
  · rw [hadd, he, List.findSome?_append, List.findSome?_append, List.findSome?_cons, hnew]

/-- **The arguments that are read have the new one at the end.** -/
theorem arguments?_addNamed :
    (e.addNamed argument).arguments? = some ((e.arguments?.getD {}).pushNamed argument) := by
  obtain ⟨before, owner, after, he, howner, hadd⟩ | ⟨hnone, before, trivia, he, htrivia, -, hadd⟩ :=
    e.addNamed_cases argument
  · have hchildren : (e.addNamed argument).children = before ++ owner.addNamed argument :: after := by
      rw [hadd]
    rw [arguments?_of_isFirstOwner he howner, arguments?_of_isFirstOwner hchildren (howner.addNamed argument),
      ownArguments?_addNamed argument owner howner.ownsArguments]
  · have hchildren : (e.addNamed argument).children =
        before ++ .arguments { named := [argument] } :: trivia := by rw [hadd]
    have howner : IsFirstOwner before (.arguments { named := [argument] }) trivia :=
      isFirstOwner_arguments _ (he ▸ hnone)
    rw [arguments?_of_isFirstOwner hchildren howner, arguments?_of_forall_not hnone]
    rfl

/-! ### Adding at a place -/

/-- The place of the first owner of arguments. -/
def ownerIndex? (e : NewExpr) : Option Nat :=
  (e.children.findIdx? isAnonymous).or (e.children.findIdx? isArguments)

/-- The place behind the last child that is not trivia. -/
def insertionIndex (e : NewExpr) : Nat :=
  e.children.length - (e.children.reverse.takeWhile isTrivia).length

/-- The expression with an owner of arguments, and the place of the first one. -/
def withOwner (e : NewExpr) : NewExpr × Nat :=
  match e.ownerIndex? with
  | some i => (e, i)
  | none =>
    ({ e with children := e.children.insertIdx e.insertionIndex (.arguments {}) }, e.insertionIndex)

/-- Adds a named argument at the place of the owner and gives the argument as it is stored there; nothing if
the place holds no owner of arguments. -/
def addNamedAt? (e : NewExpr) (argument : NamedArgument) : Option (NewExpr × NamedArgument) := do
  let (owned, i) := e.withOwner
  let child ← owned.children[i]?
  let arguments ← child.writableArguments?
  let stored ← (arguments.pushNamed argument).named.getLast?
  return ({ owned with children := owned.children.set i (child.addNamed argument) }, stored)

theorem withOwner_of_isFirstOwner (he : e.children = before ++ owner :: after)
    (h : IsFirstOwner before owner after) : e.withOwner = (e, before.length) := by
  have hindex : e.ownerIndex? = some before.length := by
    rw [ownerIndex?, he]
    obtain ⟨howner, hbefore⟩ | ⟨howner, hbefore, hall⟩ := h
    · rw [findIdx?_append_cons hbefore howner, Option.some_or]
    · rw [List.findIdx?_eq_none_iff.2 hall, findIdx?_append_cons hbefore howner, Option.none_or]
  rw [withOwner, hindex]

theorem withOwner_of_forall_not (hnone : ∀ child ∈ e.children, child.ownsArguments = false)
    (he : e.children = before ++ trivia) (htrivia : ∀ child ∈ trivia, child.isTrivia = true)
    (hbefore : ∀ child ∈ before.getLast?, child.isTrivia = false) :
    e.withOwner = ({ e with children := before ++ .arguments {} :: trivia }, before.length) := by
  simp only [NewChild.ownsArguments, Bool.or_eq_false_iff] at hnone
  have hindex : e.ownerIndex? = none := by
    rw [ownerIndex?, List.findIdx?_eq_none_iff.2 fun child hchild => (hnone child hchild).1,
      List.findIdx?_eq_none_iff.2 fun child hchild => (hnone child hchild).2, Option.none_or]
  have hinsertion : e.insertionIndex = before.length := by
    rw [insertionIndex, he, length_takeWhile_reverse_append htrivia hbefore]
    simp
  rw [withOwner, hindex, hinsertion, he, insertIdx_length_append]

/-- At the place of an owner an argument is added. -/
theorem addNamedAt?_of_withOwner {owned : NewExpr} (hplace : e.withOwner = (owned, before.length))
    (howned : owned.children = before ++ owner :: after) (howner : owner.ownsArguments = true) :
    e.addNamedAt? argument =
      some ({ owned with children := before ++ owner.addNamed argument :: after }, argument) := by
  have hwritable := writableArguments?_of_ownsArguments owner howner
  simp [addNamedAt?, hplace, howned, hwritable, ArgumentList.pushNamed]

/-- **The place always holds an owner of arguments**, and the argument stored there is the one added. -/
theorem addNamedAt?_eq : e.addNamedAt? argument = some (e.addNamed argument, argument) := by
  obtain ⟨before, owner, after, he, howner, hadd⟩ |
    ⟨hnone, before, trivia, he, htrivia, hbefore, hadd⟩ := e.addNamed_cases argument
  · rw [hadd]
    exact e.addNamedAt?_of_withOwner argument (e.withOwner_of_isFirstOwner he howner) he
      howner.ownsArguments
  · rw [hadd]
    exact e.addNamedAt?_of_withOwner argument (e.withOwner_of_forall_not hnone he htrivia hbefore) rfl rfl

/-! ### The edit as a whole -/

/-- The positional arguments of the call. -/
def positionalArguments (e : NewExpr) : List Expr :=
  match e.arguments? with
  | some a => a.positional
  | none => []

/-- The expression without the child at a place. -/
def withoutChild (e : NewExpr) (i : Nat) : NewExpr := { e with children := e.children.eraseIdx i }

/-- All that is read off the two expressions is the same, their arguments apart. -/
structure AgreesButForArguments (e e' : NewExpr) : Prop where
  id : e'.id = e.id
  qualifier : e'.qualifier = e.qualifier
  reference? : e'.reference? = e.reference?
  anonymousBase : e'.anonymous?.map (·.base) = e.anonymous?.map (·.base)
  arrayDeclaration? : e'.arrayDeclaration? = e.arrayDeclaration?
  arrayInitializer? : e'.arrayInitializer? = e.arrayInitializer?
  typeArguments? : e'.typeArguments? = e.typeArguments?
  builtinType? : e'.builtinType? = e.builtinType?

theorem qualifier_addNamed : (e.addNamed argument).qualifier = e.qualifier := by
  obtain ⟨before, owner, after, -, -, hadd⟩ | ⟨-, before, trivia, -, -, -, hadd⟩ :=
    e.addNamed_cases argument
  all_goals rw [hadd]

theorem anonymousBase_addNamed :
    (e.addNamed argument).anonymous?.map (·.base) = e.anonymous?.map (·.base) := by
  rw [anonymous?, anonymous?, List.map_findSome?, List.map_findSome?]
  exact e.findSome?_addNamed argument (fun child => by cases child <;> rfl) rfl

/-- The reference that is read is the base of the anonymous class, or else the first reference. -/
theorem reference?_eq_or (e : NewExpr) :
    e.reference? = (e.anonymous?.map (·.base)).or (e.children.findSome? NewChild.reference?) := by
  unfold reference?
  cases e.anonymous? <;> rfl

/-- Adding a named argument changes the arguments alone. -/
theorem agreesButForArguments_addNamed : e.AgreesButForArguments (e.addNamed argument) where
  id := e.id_addNamed argument
  qualifier := e.qualifier_addNamed argument
  reference? := by
    rw [reference?_eq_or, reference?_eq_or, anonymousBase_addNamed,
      e.findSome?_addNamed argument (fun child => by cases child <;> rfl) rfl]
  anonymousBase := e.anonymousBase_addNamed argument
  arrayDeclaration? := e.findSome?_addNamed argument (fun child => by cases child <;> rfl) rfl
  arrayInitializer? := e.findSome?_addNamed argument (fun child => by cases child <;> rfl) rfl
  typeArguments? := e.findSome?_addNamed argument (fun child => by cases child <;> rfl) rfl
  builtinType? := e.findSome?_addNamed argument (fun child => by cases child <;> rfl) rfl

/-- **Adding a named argument.**  The named arguments have it at the end, the positional ones and all else
that is read off the expression stay the same, and the argument is the one found where it was stored.  If
there is an owner of arguments, the first one alone is changed, and no child is added.  Otherwise an argument
list stands behind the last child that is not trivia, and without it the expression is the old one. -/
theorem addNamed_spec :
    (e.addNamed argument).namedArguments = e.namedArguments ++ [argument] ∧
      (e.addNamed argument).positionalArguments = e.positionalArguments ∧
      e.addNamedAt? argument = some (e.addNamed argument, argument) ∧
      e.AgreesButForArguments (e.addNamed argument) ∧
      ((∃ before owner after, e.children = before ++ owner :: after ∧ IsFirstOwner before owner after ∧
          (e.addNamed argument).children = before ++ owner.addNamed argument :: after) ∨
        (∀ child ∈ e.children, child.ownsArguments = false) ∧
          ∃ before trivia, e.children = before ++ trivia ∧ (∀ child ∈ trivia, child.isTrivia = true) ∧
            (∀ child ∈ before.getLast?, child.isTrivia = false) ∧
            (e.addNamed argument).children = before ++ .arguments { named := [argument] } :: trivia ∧
            (e.addNamed argument).withoutChild before.length = e) := by
  refine ⟨?_, ?_, e.addNamedAt?_eq argument, e.agreesButForArguments_addNamed argument, ?_⟩
  · rw [namedArguments, namedArguments, arguments?_addNamed]
    cases e.arguments? <;> rfl
  · rw [positionalArguments, positionalArguments, arguments?_addNamed]
    cases e.arguments? <;> rfl
  · obtain ⟨before, owner, after, he, howner, hadd⟩ |
      ⟨hnone, before, trivia, he, htrivia, hbefore, hadd⟩ := e.addNamed_cases argument
    · exact .inl ⟨before, owner, after, he, howner, by rw [hadd]⟩
    · refine .inr ⟨hnone, before, trivia, he, htrivia, hbefore, by rw [hadd], ?_⟩
      have hchildren : (before ++ .arguments { named := [argument] } :: trivia).eraseIdx before.length =
          e.children := by
        rw [List.eraseIdx_append_of_length_le (Nat.le_refl _), Nat.sub_self, List.eraseIdx_cons_zero, he]
      rw [hadd, withoutChild, hchildren]
      cases e
      rfl

/-- `new Foo @` becomes `new Foo(a: 1) @`. -/
example : NewExpr.addNamed ⟨1, none, [.keyword, .whitespace " ", .reference ⟨"Foo", []⟩, .whitespace " ",
      .error "@"]⟩ ⟨"a", .literal (.integer "1")⟩ =
    ⟨1, none, [.keyword, .whitespace " ", .reference ⟨"Foo", []⟩,
      .arguments { named := [⟨"a", .literal (.integer "1")⟩] }, .whitespace " ", .error "@"]⟩ := rfl

end NewExpr
end GroovyNew
