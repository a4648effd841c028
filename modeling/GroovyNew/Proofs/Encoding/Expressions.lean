/-
# Expressions are read back from JSON

An expression that has been read from JSON is read again from the value that it is written as
(`Expr.ensures_read`, `NewExpr.ensures_read`).  Not every expression is: an id must fit 32 bits, the
dimensions of an array 64, and a class reference must be the one that its own text writes.  Reading sees
to all three.

The first part goes through the constructors: what is put together from parts that are read back is read
back.  The second part goes through the readers, which are mutually recursive, and so are the theorems:
one for each reader, by the cases of its definition.  A reader that goes through the members of an object
ensures that its result is read back if the parts that it starts with are (`CastParts.Restore` and its
like).
-/

import GroovyNew.Proofs.Encoding.Reading
import GroovyNew.Proofs.Encoding.Record
import GroovyNew.Proofs.TypeRef.References

namespace GroovyNew

/-! ### Values without expressions -/

/-- Reading what the reference is written as gives back the reference. -/
def CodeReference.Restores (r : CodeReference) : Prop := ofJson? r.toJson = some r

theorem CodeReference.restores_of_ofJson? {v : Json} {r : CodeReference} (h : ofJson? v = some r) :
    r.Restores := by
  obtain ⟨text, -, h⟩ := Option.bind_eq_some_iff.1 h
  cases hr : ofText text with
  | error e =>
    rw [hr] at h
    cases h
  | ok r' =>
    rw [hr] at h
    obtain rfl := Option.some.inj h
    rw [Restores, ofJson?, toJson, Json.string?, Option.bind_eq_bind, Option.bind_some, ofText_toText hr]

@[simp] theorem Literal.ofJson?_toJson (l : Literal) : ofJson? l.toJson = some l := by
  cases l with
  | char c => simp [toJson, ofJson?, Json.variant, Json.record, Json.variant?, char?, Json.string?]
  | _ => rfl

/-! ### What is read back -/

/-- Reading what the expression is written as gives back the expression, and draws no id. -/
def Expr.Restores (e : Expr) : Prop := Expr.read e.toJson = pure e

/-- Reading what the labelled value is written as gives back the labelled value. -/
def NamedArgument.Restores (a : NamedArgument) : Prop := NamedArgument.read a.toJson = pure a

/-- Reading what the argument list is written as gives back the argument list. -/
def ArgumentList.Restores (a : ArgumentList) : Prop := ArgumentList.read a.toJson = pure a

/-- Reading what the anonymous class is written as gives back the anonymous class. -/
def AnonymousClass.Restores (c : AnonymousClass) : Prop := AnonymousClass.read c.toJson = pure c

/-- Reading what the child is written as gives back the child. -/
def NewChild.Restores (c : NewChild) : Prop := NewChild.read c.toJson = pure c

/-- Reading what the `new` expression is written as gives back the `new` expression. -/
def NewExpr.Restores (e : NewExpr) : Prop := NewExpr.read e.toJson = pure e

/-! ### Lists -/

theorem exprsToJson_eq_map (es : List Expr) : exprsToJson es = es.map Expr.toJson := by
  induction es with
  | nil => rfl
  | cons e es ih => rw [exprsToJson, ih, List.map_cons]

theorem readExprs_eq_mapM (vs : List Json) : readExprs vs = vs.mapM Expr.read := by
  induction vs with
  | nil => rfl
  | cons v vs ih => rw [readExprs, ih, List.mapM_cons]

theorem namedToJson_eq_map (as : List NamedArgument) :
    namedToJson as = as.map NamedArgument.toJson := by
  induction as with
  | nil => rfl
  | cons a as ih => rw [namedToJson, ih, List.map_cons]

theorem readNamed_eq_mapM (vs : List Json) : readNamed vs = vs.mapM NamedArgument.read := by
  induction vs with
  | nil => rfl
  | cons v vs ih => rw [readNamed, ih, List.mapM_cons]

theorem childrenToJson_eq_map (cs : List NewChild) : childrenToJson cs = cs.map NewChild.toJson := by
  induction cs with
  | nil => rfl
  | cons c cs ih => rw [childrenToJson, ih, List.map_cons]

theorem readChildren_eq_mapM (vs : List Json) : readChildren vs = vs.mapM NewChild.read := by
  induction vs with
  | nil => rfl
  | cons v vs ih => rw [readChildren, ih, List.mapM_cons]

theorem readExprs_exprsToJson {es : List Expr} (h : ∀ e ∈ es, e.Restores) :
    readExprs (exprsToJson es) = pure es := by
  rw [readExprs_eq_mapM, exprsToJson_eq_map, Reading.mapM_map_eq_pure h]

theorem readNamed_namedToJson {as : List NamedArgument} (h : ∀ a ∈ as, a.Restores) :
    readNamed (namedToJson as) = pure as := by
  rw [readNamed_eq_mapM, namedToJson_eq_map, Reading.mapM_map_eq_pure h]

theorem readChildren_childrenToJson {cs : List NewChild} (h : ∀ c ∈ cs, c.Restores) :
    readChildren (childrenToJson cs) = pure cs := by
  rw [readChildren_eq_mapM, childrenToJson_eq_map, Reading.mapM_map_eq_pure h]

section Written

attribute [local simp] Expr.toJson Expr.read readCast NamedArgument.toJson NamedArgument.read
  NamedArgument.readMembers ArgumentList.toJson ArgumentList.read ArgumentList.readMembers
  AnonymousClass.toJson AnonymousClass.read AnonymousClass.readMembers NewChild.toJson NewChild.read
  NewExpr.toJson NewExpr.read NewExpr.readMembers Json.variant Json.record_eq_obj Json.fields_cons
  Json.fields_nil Json.string? guard

/-! ### Expressions -/

namespace Expr

theorem restores_literal (l : Literal) : Restores (.literal l) := by
  simp [Restores]

theorem restores_ident (name : String) : Restores (.ident name) := by
  simp [Restores]

theorem restores_this : Restores .this := by
  rw [Restores, toJson, read]

theorem restores_verbatim (text : String) : Restores (.verbatim text) := by
  simp [Restores]

theorem restores_new {e : NewExpr} (h : e.Restores) : Restores (.new e) := by
  have h' : NewExpr.read e.toJson = pure e := h
  simp [Restores, h']

theorem restores_map {entries : List NamedArgument} (h : ∀ a ∈ entries, a.Restores) :
    Restores (.map entries) := by
  simp [Restores, readNamed_namedToJson h]

theorem restores_list {items : List Expr} (h : ∀ e ∈ items, e.Restores) : Restores (.list items) := by
  simp [Restores, readExprs_exprsToJson h]

theorem restores_cast {target : CodeReference} {e : Expr} (htarget : target.Restores)
    (he : e.Restores) : Restores (.cast target e) := by
  have htarget' : CodeReference.ofJson? target.toJson = some target := htarget
  have he' : read e.toJson = pure e := he
  simp [Restores, htarget', he']

/-- No expression is written as `null`. -/
theorem toJson_ne_null (e : Expr) : e.toJson ≠ .null := by
  cases e <;> simp

end Expr

theorem NamedArgument.restores {label : String} {value : Expr} (h : value.Restores) :
    Restores ⟨label, value⟩ := by
  have h' : Expr.read value.toJson = pure value := h
  simp [Restores, h']

theorem ArgumentList.restores {named : List NamedArgument} {positional : List Expr}
    (hnamed : ∀ a ∈ named, a.Restores) (hpositional : ∀ e ∈ positional, e.Restores) :
    Restores ⟨named, positional⟩ := by
  have hn := readNamed_namedToJson hnamed
  have hp := readExprs_exprsToJson hpositional
  -- An empty group is not written.
  cases named with
  | nil => cases positional with
    | nil => simp [Restores]
    | cons e es => simp [Restores, hp]
  | cons a as => cases positional with
    | nil => simp [Restores, hn]
    | cons e es => simp [Restores, hn, hp]

/-- No argument list is written as `null`. -/
theorem ArgumentList.toJson_ne_null (a : ArgumentList) : a.toJson ≠ .null := by
  obtain ⟨named, positional⟩ := a
  cases named <;> cases positional <;> simp

theorem AnonymousClass.restores {base : CodeReference} {arguments : Option ArgumentList}
    (hbase : base.Restores) (harguments : ∀ a ∈ arguments, a.Restores) :
    Restores ⟨base, arguments⟩ := by
  have hbase' : CodeReference.ofJson? base.toJson = some base := hbase
  cases arguments with
  | none => simp [Restores, hbase']
  | some a =>
    have ha : ArgumentList.read a.toJson = pure a := harguments a rfl
    simp [Restores, hbase', ha, a.toJson_ne_null]

namespace NewChild

theorem restores_keyword : Restores .keyword := by
  rw [Restores, toJson, read]

theorem restores_whitespace (text : String) : Restores (.whitespace text) := by
  simp [Restores]

theorem restores_error (text : String) : Restores (.error text) := by
  simp [Restores]

theorem restores_typeArguments {args : List CodeReference} (h : ∀ r ∈ args, r.Restores) :
    Restores (.typeArguments args) := by
  simp [Restores, Json.list?_arr_map h]

theorem restores_reference {r : CodeReference} (h : r.Restores) : Restores (.reference r) := by
  have h' : CodeReference.ofJson? r.toJson = some r := h
  simp [Restores, h']

theorem restores_builtinType (name : String) : Restores (.builtinType name) := by
  simp [Restores]

theorem restores_arguments {a : ArgumentList} (h : a.Restores) : Restores (.arguments a) := by
  have h' : ArgumentList.read a.toJson = pure a := h
  simp [Restores, h']

theorem restores_anonymous {c : AnonymousClass} (h : c.Restores) : Restores (.anonymous c) := by
  have h' : AnonymousClass.read c.toJson = pure c := h
  simp [Restores, h']

theorem restores_arrayDeclaration {n : Nat} (h : n < Nat.pow 2 64) : Restores (.arrayDeclaration n) := by
  rw [Restores, toJson, Json.variant, Json.record_eq_obj, Json.fields_cons, Json.fields_nil, read,
    Json.Record.members?_record (by simp), Option.bind_eq_bind, Option.bind_some,
    Json.Record.required_fields, List.lookup_cons_self, Option.bind_some, Json.natBelow?_nat h,
    Reading.lift_some, map_pure]

theorem restores_arrayInitializer {items : List Expr} (h : ∀ e ∈ items, e.Restores) :
    Restores (.arrayInitializer items) := by
  simp [Restores, readExprs_exprsToJson h]

end NewChild

theorem NewExpr.restores {id : CallSiteId} {qualifier : Option Expr} {children : List NewChild}
    (hid : id < Reading.idBound) (hqualifier : ∀ q ∈ qualifier, q.Restores)
    (hchildren : ∀ c ∈ children, c.Restores) : Restores ⟨id, qualifier, children⟩ := by
  have hid' : Json.natBelow? 32 (.nat id) = some id := Json.natBelow?_nat hid
  have hchildren' := readChildren_childrenToJson hchildren
  cases qualifier with
  | none => simp [Restores, hid', hchildren']
  | some q =>
    have hq : Expr.read q.toJson = pure q := hqualifier q rfl
    simp [Restores, hid', hchildren', hq, q.toJson_ne_null]

end Written

/-! ### Members that have been read -/

/-- The parts of a cast that have been read are read back. -/
structure CastParts.Restore (parts : CastParts) : Prop where
  target : ∀ r ∈ parts.target, r.Restores
  expr : ∀ e ∈ parts.expr, e.Restores

/-- The parts of a labelled value that have been read are read back. -/
def NamedParts.Restore (parts : NamedParts) : Prop := ∀ e ∈ parts.value, e.Restores

/-- The parts of an argument list that have been read are read back. -/
structure ArgumentParts.Restore (parts : ArgumentParts) : Prop where
  named : ∀ as ∈ parts.named, ∀ a ∈ as, a.Restores
  positional : ∀ es ∈ parts.positional, ∀ e ∈ es, e.Restores

/-- The parts of an anonymous class that have been read are read back. -/
structure AnonymousParts.Restore (parts : AnonymousParts) : Prop where
  base : ∀ r ∈ parts.base, r.Restores
  arguments : ∀ o ∈ parts.arguments, ∀ a ∈ o, a.Restores

/-- The parts of a `new` expression that have been read are read back. -/
structure NewParts.Restore (parts : NewParts) : Prop where
  id : ∀ id ∈ parts.id, id < Reading.idBound
  qualifier : ∀ o ∈ parts.qualifier, ∀ q ∈ o, q.Restores
  children : ∀ cs ∈ parts.children, ∀ c ∈ cs, c.Restores

open Reading

mutual

/-- **An expression that has been read is read back from what it is written as.** -/
theorem Expr.ensures_read (v : Json) : (Expr.read v).Ensures Expr.Restores := by
  unfold Expr.read
  split
  · exact ensures_pure Expr.restores_this
  · exact ensures_pure Expr.restores_this
  · exact Ensures.lift_map fun l _ => Expr.restores_literal l
  · exact Ensures.lift_map fun name _ => Expr.restores_ident name
  · rename_i v
    exact (NewExpr.ensures_read v).map fun e => Expr.restores_new
  · rename_i items
    exact (ensures_readNamed items).map fun as => Expr.restores_map
  · rename_i items
    exact (ensures_readExprs items).map fun es => Expr.restores_list
  · rename_i ms
    exact (ensures_readCast {} ms).mono fun e he => he ⟨by simp, by simp⟩
  · rename_i target v
    refine .lift_bind fun target ht => (Expr.ensures_read v).bind fun e => ensures_pure fun he => ?_
    exact Expr.restores_cast (CodeReference.restores_of_ofJson? ht) he
  · exact Ensures.lift_map fun text _ => Expr.restores_verbatim text
  · exact ensures_failure
termination_by sizeOf v

theorem ensures_readCast (parts : CastParts) (ms : Json.Members) :
    (readCast parts ms).Ensures fun e => parts.Restore → e.Restores := by
  unfold readCast
  split
  · split
    · exact ensures_pure fun h => Expr.restores_cast (h.target _ rfl) (h.expr _ rfl)
    · exact ensures_failure
  · exact ensures_failure
  · rename_i v ms
    refine .guard_bind fun _ => .lift_bind fun target ht => ?_
    refine (ensures_readCast { parts with target := some target } ms).mono fun e he h => he ⟨?_, h.expr⟩
    simpa using CodeReference.restores_of_ofJson? ht
  · rename_i v ms
    refine .guard_bind fun _ => (Expr.ensures_read v).bind fun e' => ?_
    refine (ensures_readCast { parts with expr := some e' } ms).mono fun e he he' h => he ⟨h.target, ?_⟩
    simpa using he'
  · exact ensures_readCast parts _
termination_by sizeOf ms

theorem ensures_readExprs (vs : List Json) :
    (readExprs vs).Ensures fun es => ∀ e ∈ es, e.Restores := by
  rw [readExprs_eq_mapM]
  exact Ensures.mapM fun v _ => Expr.ensures_read v
termination_by sizeOf vs

theorem ensures_readNamed (vs : List Json) :
    (readNamed vs).Ensures fun as => ∀ a ∈ as, a.Restores := by
  rw [readNamed_eq_mapM]
  exact Ensures.mapM fun v _ => NamedArgument.ensures_read v
termination_by sizeOf vs

/-- A labelled value that has been read is read back. -/
theorem NamedArgument.ensures_read (v : Json) :
    (NamedArgument.read v).Ensures NamedArgument.Restores := by
  unfold NamedArgument.read
  split
  · rename_i ms
    exact (NamedArgument.ensures_readMembers {} ms).mono fun a ha => ha (by simp [NamedParts.Restore])
  · rename_i label value
    exact .lift_bind fun label _ => (Expr.ensures_read value).bind fun e =>
      ensures_pure NamedArgument.restores
  · exact ensures_failure
termination_by sizeOf v

theorem NamedArgument.ensures_readMembers (parts : NamedParts) (ms : Json.Members) :
    (NamedArgument.readMembers parts ms).Ensures fun a => parts.Restore → a.Restores := by
  unfold NamedArgument.readMembers
  split
  · split
    · exact ensures_pure fun h => NamedArgument.restores (h _ rfl)
    · exact ensures_failure
  · exact ensures_failure
  · rename_i v ms
    refine .guard_bind fun _ => .lift_bind fun label _ => ?_
    exact NamedArgument.ensures_readMembers { parts with label := some label } ms
  · rename_i v ms
    refine .guard_bind fun _ => (Expr.ensures_read v).bind fun e => ?_
    refine (NamedArgument.ensures_readMembers { parts with value := some e } ms).mono
      fun a ha he _ => ha ?_
    simpa [NamedParts.Restore] using he
  · exact NamedArgument.ensures_readMembers parts _
termination_by sizeOf ms

/-- An argument list that has been read is read back. -/
theorem ArgumentList.ensures_read (v : Json) :
    (ArgumentList.read v).Ensures ArgumentList.Restores := by
  unfold ArgumentList.read
  split
  · rename_i ms
    exact (ArgumentList.ensures_readMembers {} ms).mono fun a ha => ha ⟨by simp, by simp⟩
  · exact ensures_pure (ArgumentList.restores (by simp) (by simp))
  · rename_i named
    exact (ensures_readNamed named).bind fun as =>
      ensures_pure fun has => ArgumentList.restores has (by simp)
  · rename_i named positional
    exact (ensures_readNamed named).bind fun as => (ensures_readExprs positional).bind fun es =>
      ensures_pure fun hes has => ArgumentList.restores has hes
  · exact ensures_failure
termination_by sizeOf v

theorem ArgumentList.ensures_readMembers (parts : ArgumentParts) (ms : Json.Members) :
    (ArgumentList.readMembers parts ms).Ensures fun a => parts.Restore → a.Restores := by
  unfold ArgumentList.readMembers
  split
  · refine ensures_pure fun h => ArgumentList.restores ?_ ?_
    · cases hnamed : parts.named with
      | none => simp
      | some as => exact h.named as hnamed
    · cases hpositional : parts.positional with
      | none => simp
      | some es => exact h.positional es hpositional
  · exact ensures_failure
  · rename_i items ms
    refine .guard_bind fun _ => (ensures_readNamed items).bind fun as => ?_
    refine (ArgumentList.ensures_readMembers { parts with named := some as } ms).mono
      fun a ha has h => ha ⟨?_, h.positional⟩
    simpa using has
  · rename_i items ms
    refine .guard_bind fun _ => (ensures_readExprs items).bind fun es => ?_
    refine (ArgumentList.ensures_readMembers { parts with positional := some es } ms).mono
      fun a ha hes h => ha ⟨h.named, ?_⟩
    simpa using hes
  · exact .guard_bind fun _ => ArgumentList.ensures_readMembers parts _
termination_by sizeOf ms

/-- An anonymous class that has been read is read back. -/
theorem AnonymousClass.ensures_read (v : Json) :
    (AnonymousClass.read v).Ensures AnonymousClass.Restores := by
  unfold AnonymousClass.read
  split
  · rename_i ms
    exact (AnonymousClass.ensures_readMembers {} ms).mono fun c hc => hc ⟨by simp, by simp⟩
  · exact .lift_bind fun base hbase =>
      ensures_pure (AnonymousClass.restores (CodeReference.restores_of_ofJson? hbase) (by simp))
  · exact .lift_bind fun base hbase =>
      ensures_pure (AnonymousClass.restores (CodeReference.restores_of_ofJson? hbase) (by simp))
  · rename_i base arguments _
    refine .lift_bind fun base hbase => (ArgumentList.ensures_read arguments).bind fun a =>
      ensures_pure fun ha => AnonymousClass.restores (CodeReference.restores_of_ofJson? hbase) ?_
    simpa using ha
  · exact ensures_failure
termination_by sizeOf v

theorem AnonymousClass.ensures_readMembers (parts : AnonymousParts) (ms : Json.Members) :
    (AnonymousClass.readMembers parts ms).Ensures fun c => parts.Restore → c.Restores := by
  unfold AnonymousClass.readMembers
  split
  · split
    · rename_i base hbase
      refine ensures_pure fun h => AnonymousClass.restores (h.base base hbase) ?_
      cases harguments : parts.arguments with
      | none => simp
      | some o => exact h.arguments o harguments
    · exact ensures_failure
  · exact ensures_failure
  · rename_i v ms
    refine .guard_bind fun _ => .lift_bind fun base hbase => ?_
    refine (AnonymousClass.ensures_readMembers { parts with base := some base } ms).mono
      fun c hc h => hc ⟨?_, h.arguments⟩
    simpa using CodeReference.restores_of_ofJson? hbase
  · rename_i ms
    refine .guard_bind fun _ => ?_
    exact (AnonymousClass.ensures_readMembers { parts with arguments := some none } ms).mono
      fun c hc h => hc ⟨h.base, by simp⟩
  · rename_i v ms _
    refine .guard_bind fun _ => (ArgumentList.ensures_read v).bind fun a => ?_
    refine (AnonymousClass.ensures_readMembers { parts with arguments := some (some a) } ms).mono
      fun c hc ha h => hc ⟨h.base, ?_⟩
    simpa using ha
  · exact AnonymousClass.ensures_readMembers parts _
termination_by sizeOf ms

/-- A child that has been read is read back. -/
theorem NewChild.ensures_read (v : Json) : (NewChild.read v).Ensures NewChild.Restores := by
  unfold NewChild.read
  split
  · exact ensures_pure NewChild.restores_keyword
  · exact ensures_pure NewChild.restores_keyword
  · exact .lift_map fun text _ => NewChild.restores_whitespace text
  · exact .lift_map fun text _ => NewChild.restores_error text
  · refine .lift_map fun args hargs => NewChild.restores_typeArguments fun r hr => ?_
    obtain ⟨items, -, hitems⟩ := Option.bind_eq_some_iff.1 hargs
    obtain ⟨v, -, hv⟩ := Json.exists_of_mem_mapM_eq_some hitems r hr
    exact CodeReference.restores_of_ofJson? hv
  · exact .lift_map fun r hr => NewChild.restores_reference (CodeReference.restores_of_ofJson? hr)
  · exact .lift_map fun name _ => NewChild.restores_builtinType name
  · rename_i v
    exact (ArgumentList.ensures_read v).map fun a => NewChild.restores_arguments
  · rename_i v
    exact (AnonymousClass.ensures_read v).map fun c => NewChild.restores_anonymous
  · refine .lift_map fun n hn => NewChild.restores_arrayDeclaration ?_
    obtain ⟨ms, -, hn⟩ := Option.bind_eq_some_iff.1 hn
    obtain ⟨v, -, hv⟩ := Option.bind_eq_some_iff.1 hn
    exact Json.lt_of_natBelow?_eq_some hv
  · rename_i items
    exact (ensures_readExprs items).map fun es => NewChild.restores_arrayInitializer
  · exact ensures_failure
termination_by sizeOf v

theorem ensures_readChildren (vs : List Json) :
    (readChildren vs).Ensures fun cs => ∀ c ∈ cs, c.Restores := by
  rw [readChildren_eq_mapM]
  exact Ensures.mapM fun v _ => NewChild.ensures_read v
termination_by sizeOf vs

/-- **A `new` expression that has been read is read back from what it is written as.** -/
theorem NewExpr.ensures_read (v : Json) : (NewExpr.read v).Ensures NewExpr.Restores := by
  unfold NewExpr.read
  split
  · rename_i ms
    exact (NewExpr.ensures_readMembers {} ms).mono fun e he => he ⟨by simp, by simp, by simp⟩
  · rename_i id children
    exact .lift_bind fun id hid => (ensures_readChildren children).bind fun cs =>
      ensures_pure fun hcs => NewExpr.restores (Json.lt_of_natBelow?_eq_some hid) (by simp) hcs
  · rename_i id qualifier children _
    refine .lift_bind fun id hid => (Expr.ensures_read qualifier).bind fun q =>
      (ensures_readChildren children).bind fun cs => ensures_pure fun hcs hq => ?_
    exact NewExpr.restores (Json.lt_of_natBelow?_eq_some hid) (by simpa using hq) hcs
  · exact ensures_failure
termination_by sizeOf v

theorem NewExpr.ensures_readMembers (parts : NewParts) (ms : Json.Members) :
    (NewExpr.readMembers parts ms).Ensures fun e => parts.Restore → e.Restores := by
  unfold NewExpr.readMembers
  split
  · split
    · exact ensures_failure
    · rename_i children hchildren
      have hqualifier (h : parts.Restore) : ∀ q ∈ parts.qualifier.getD none, q.Restores := by
        cases hq : parts.qualifier with
        | none => simp
        | some o => exact h.qualifier o hq
      split
      · rename_i id hid
        rw [pure_bind]
        exact ensures_pure fun h =>
          NewExpr.restores (h.id id hid) (hqualifier h) (h.children children hchildren)
      · exact ensures_fresh.bind fun id => ensures_pure fun hid h =>
          NewExpr.restores hid (hqualifier h) (h.children children hchildren)
  · exact ensures_failure
  · rename_i v ms
    refine .guard_bind fun _ => .lift_bind fun id hid => ?_
    have hid' : id < idBound := Json.lt_of_natBelow?_eq_some hid
    refine (NewExpr.ensures_readMembers { parts with id := some id } ms).mono
      fun e he h => he ⟨?_, h.qualifier, h.children⟩
    simpa using hid'
  · rename_i ms
    refine .guard_bind fun _ => ?_
    exact (NewExpr.ensures_readMembers { parts with qualifier := some none } ms).mono
      fun e he h => he ⟨h.id, by simp, h.children⟩
  · rename_i v ms _
    refine .guard_bind fun _ => (Expr.ensures_read v).bind fun q => ?_
    refine (NewExpr.ensures_readMembers { parts with qualifier := some (some q) } ms).mono
      fun e he hq h => he ⟨h.id, ?_, h.children⟩
    simpa using hq
  · rename_i items ms
    refine .guard_bind fun _ => (ensures_readChildren items).bind fun cs => ?_
    refine (NewExpr.ensures_readMembers { parts with children := some cs } ms).mono
      fun e he hcs h => he ⟨h.id, h.qualifier, ?_⟩
    simpa using hcs
  · exact .guard_bind fun _ => NewExpr.ensures_readMembers parts _
termination_by sizeOf ms

end

end GroovyNew
