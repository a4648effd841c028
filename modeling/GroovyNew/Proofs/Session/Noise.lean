/-
# Keywords, blanks and fragments decide nothing

The children of a `new` expression include what an editor leaves between the parts that mean something: the
keyword, blanks, and fragments that were not parsed (`NewChild.isNoise`).  `NewExpr.withoutNoise` removes
them from an expression and from every `new` expression inside it, at any depth.
`Session.infer_resolve_withoutNoise` says that this changes nothing that inference or resolution answers,
nor what the constructors are asked on the way.

All of it is read through the first children of some kind, and noise is of no such kind
(`NewExpr.findSome?_withoutNoise`).  Arguments that are read are themselves without noise then, and have
the types that they had (`TypeSystem.infer?_withoutNoise`).
-/

import GroovyNew.Resolve.Session

namespace GroovyNew

/-! ### Removing noise -/

/-- The keyword, a blank or a fragment that was not parsed. -/
def NewChild.isNoise : NewChild → Bool
  | .keyword => true
  | child => child.isTrivia

mutual

/-- The expression, with no noise in any `new` expression inside. -/
def Expr.withoutNoise : Expr → Expr
  | .new e => .new e.withoutNoise
  | .map entries => .map (namedWithoutNoise entries)
  | .list items => .list (exprsWithoutNoise items)
  | .cast target e => .cast target e.withoutNoise
  | .literal l => .literal l
  | .ident name => .ident name
  | .this => .this
  | .verbatim text => .verbatim text

/-- The labelled value without noise. -/
def NamedArgument.withoutNoise : NamedArgument → NamedArgument
  | ⟨label, value⟩ => ⟨label, value.withoutNoise⟩

/-- Each of some expressions without noise. -/
def exprsWithoutNoise : List Expr → List Expr
  | [] => []
  | e :: es => e.withoutNoise :: exprsWithoutNoise es

/-- Each of some labelled values without noise. -/
def namedWithoutNoise : List NamedArgument → List NamedArgument
  | [] => []
  | a :: as => a.withoutNoise :: namedWithoutNoise as

/-- The argument list without noise. -/
def ArgumentList.withoutNoise : ArgumentList → ArgumentList
  | ⟨named, positional⟩ => ⟨namedWithoutNoise named, exprsWithoutNoise positional⟩

/-- The anonymous class without noise. -/
def AnonymousClass.withoutNoise : AnonymousClass → AnonymousClass
  | ⟨base, none⟩ => ⟨base, none⟩
  | ⟨base, some a⟩ => ⟨base, some a.withoutNoise⟩

/-- The child with no noise inside; noise itself stays as it is. -/
def NewChild.withoutNoise : NewChild → NewChild
  | .arguments a => .arguments a.withoutNoise
  | .anonymous c => .anonymous c.withoutNoise
  | .arrayInitializer items => .arrayInitializer (exprsWithoutNoise items)
  | .keyword => .keyword
  | .whitespace text => .whitespace text
  | .error text => .error text
  | .typeArguments args => .typeArguments args
  | .reference r => .reference r
  | .builtinType name => .builtinType name
  | .arrayDeclaration n => .arrayDeclaration n

/-- The children that are no noise, with none inside. -/
def childrenWithoutNoise : List NewChild → List NewChild
  | [] => []
  | c :: cs => if c.isNoise then childrenWithoutNoise cs else c.withoutNoise :: childrenWithoutNoise cs

/-- The `new` expression, with no noise in it and in any `new` expression inside. -/
def NewExpr.withoutNoise : NewExpr → NewExpr
  | ⟨id, none, children⟩ => ⟨id, none, childrenWithoutNoise children⟩
  | ⟨id, some q, children⟩ => ⟨id, some q.withoutNoise, childrenWithoutNoise children⟩

end

theorem exprsWithoutNoise_eq_map (es : List Expr) : exprsWithoutNoise es = es.map Expr.withoutNoise := by
  induction es with
  | nil => rfl
  | cons e es ih => rw [exprsWithoutNoise, ih, List.map_cons]

@[simp] theorem isEmpty_namedWithoutNoise (as : List NamedArgument) :
    (namedWithoutNoise as).isEmpty = as.isEmpty := by
  cases as <;> rfl

@[simp] theorem ArgumentList.named_withoutNoise (a : ArgumentList) :
    a.withoutNoise.named = namedWithoutNoise a.named := by
  obtain ⟨named, positional⟩ := a
  rfl

@[simp] theorem ArgumentList.positional_withoutNoise (a : ArgumentList) :
    a.withoutNoise.positional = a.positional.map Expr.withoutNoise := by
  obtain ⟨named, positional⟩ := a
  exact exprsWithoutNoise_eq_map positional

theorem childrenWithoutNoise_eq_map (cs : List NewChild) :
    childrenWithoutNoise cs = (cs.filter (!·.isNoise)).map NewChild.withoutNoise := by
  induction cs with
  | nil => rfl
  | cons c cs ih =>
    rw [childrenWithoutNoise, ih]
    cases h : c.isNoise <;> simp [h]

/-! ### What is read off an expression -/

/-- The function looks for a child of a kind that noise is not of. -/
structure NewChild.IgnoresNoise {β : Type} (g : NewChild → Option β) : Prop where
  keyword : g .keyword = none := by rfl
  whitespace : ∀ text, g (.whitespace text) = none := by exact fun _ => rfl
  error : ∀ text, g (.error text) = none := by exact fun _ => rfl

theorem NewChild.IgnoresNoise.eq_none {β : Type} {g : NewChild → Option β} (h : IgnoresNoise g)
    {child : NewChild} (hc : child.isNoise = true) : g child = none := by
  cases child with
  | keyword => exact h.keyword
  | whitespace text => exact h.whitespace text
  | error text => exact h.error text
  | _ => cases hc

namespace NewExpr

variable (e : NewExpr)

@[simp] theorem id_withoutNoise : e.withoutNoise.id = e.id := by
  obtain ⟨id, qualifier, children⟩ := e
  cases qualifier <;> rfl

@[simp] theorem qualifier_withoutNoise :
    e.withoutNoise.qualifier = e.qualifier.map Expr.withoutNoise := by
  obtain ⟨id, qualifier, children⟩ := e
  cases qualifier <;> rfl

@[simp] theorem children_withoutNoise :
    e.withoutNoise.children = (e.children.filter (!·.isNoise)).map NewChild.withoutNoise := by
  rw [← childrenWithoutNoise_eq_map]
  obtain ⟨id, qualifier, children⟩ := e
  cases qualifier <;> rfl

/-- `outer.new Inner(new int)` with blanks and a fragment, inside the argument too. -/
example : NewExpr.withoutNoise ⟨1, some (.ident "outer"),
    [.keyword, .whitespace " ", .error "@", .reference ⟨"Inner", []⟩, .arguments {
      positional := [.new ⟨2, none, [.keyword, .whitespace " ", .builtinType "int"]⟩] }]⟩ =
    ⟨1, some (.ident "outer"),
      [.reference ⟨"Inner", []⟩, .arguments {
        positional := [.new ⟨2, none, [.builtinType "int"]⟩] }]⟩ := rfl

/-- **What is read off the first child of some kind that noise is not of** comes without noise. -/
theorem findSome?_withoutNoise {β : Type} {g : NewChild → Option β} {k : β → β}
    (hnoise : NewChild.IgnoresNoise g) (hg : ∀ child, g child.withoutNoise = (g child).map k) :
    e.withoutNoise.children.findSome? g = (e.children.findSome? g).map k := by
  rw [children_withoutNoise]
  induction e.children with
  | nil => rfl
  | cons c cs ih =>
    cases hc : c.isNoise with
    | true => simp [hc, hnoise.eq_none hc, ih]
    | false =>
      cases hgc : g c with
      | none => simp [hc, hg, hgc, ih]
      | some b => simp [hc, hg, hgc]

/-- What has no noise inside is read off as before. -/
theorem findSome?_withoutNoise_of_eq {β : Type} {g : NewChild → Option β}
    (hnoise : NewChild.IgnoresNoise g) (hg : ∀ child, g child.withoutNoise = g child) :
    e.withoutNoise.children.findSome? g = e.children.findSome? g := by
  rw [e.findSome?_withoutNoise hnoise fun child => (hg child).trans Option.map_id'.symm]
  exact Option.map_id'

theorem anonymous?_withoutNoise :
    e.withoutNoise.anonymous? = e.anonymous?.map AnonymousClass.withoutNoise :=
  e.findSome?_withoutNoise {} fun child => by cases child <;> rfl

@[simp] theorem reference?_withoutNoise : e.withoutNoise.reference? = e.reference? := by
  have hreference : e.withoutNoise.children.findSome? NewChild.reference? =
      e.children.findSome? NewChild.reference? :=
    e.findSome?_withoutNoise_of_eq {} fun child => by cases child <;> rfl
  unfold reference?
  rw [anonymous?_withoutNoise, hreference]
  rcases e.anonymous? with _ | ⟨base, _ | a⟩ <;> rfl

@[simp] theorem arguments?_withoutNoise :
    e.withoutNoise.arguments? = e.arguments?.map ArgumentList.withoutNoise := by
  have harguments : e.withoutNoise.children.findSome? NewChild.arguments? =
      (e.children.findSome? NewChild.arguments?).map ArgumentList.withoutNoise :=
    e.findSome?_withoutNoise {} fun child => by cases child <;> rfl
  unfold arguments?
  rw [anonymous?_withoutNoise, harguments]
  rcases e.anonymous? with _ | ⟨base, _ | a⟩ <;> rfl

@[simp] theorem arrayCount_withoutNoise : e.withoutNoise.arrayCount = e.arrayCount := by
  have hdimensions : e.withoutNoise.arrayDeclaration? = e.arrayDeclaration? :=
    e.findSome?_withoutNoise_of_eq {} fun child => by cases child <;> rfl
  rw [arrayCount, arrayCount, hdimensions]

@[simp] theorem builtinType?_withoutNoise : e.withoutNoise.builtinType? = e.builtinType? :=
  e.findSome?_withoutNoise_of_eq {} fun child => by cases child <;> rfl

/-- The type of a `new` expression shows no noise. -/
theorem type?_withoutNoise (ts : TypeSystem) (scope : Scope) :
    e.withoutNoise.type? ts scope = e.type? ts scope := by
  rw [type?, type?, elementType?, elementType?, reference?_withoutNoise, builtinType?_withoutNoise,
    arrayCount_withoutNoise]

end NewExpr

/-! ### Types of expressions -/

namespace TypeSystem

variable (ts : TypeSystem) (ctx : Context)

mutual

/-- **The type of an expression shows no noise.**  Only map literals show the types of what is inside. -/
theorem infer?_withoutNoise : ∀ e : Expr, ts.infer? ctx e.withoutNoise = ts.infer? ctx e
  | .new e => by rw [Expr.withoutNoise, infer?, infer?, e.type?_withoutNoise]
  | .map entries => by rw [Expr.withoutNoise, infer?, infer?, inferNamed_withoutNoise entries]
  | .list _ | .cast _ _ | .literal _ | .ident _ | .this | .verbatim _ => by
    simp only [Expr.withoutNoise, infer?]

theorem inferNamed_withoutNoise : ∀ named : List NamedArgument,
    ts.inferNamed ctx (namedWithoutNoise named) = ts.inferNamed ctx named
  | [] => rfl
  | ⟨label, value⟩ :: as => by
    rw [namedWithoutNoise, NamedArgument.withoutNoise, inferNamed, inferNamed,
      infer?_withoutNoise value, inferNamed_withoutNoise as]

end

theorem inferOrUnknown_withoutNoise (e : Expr) :
    ts.inferOrUnknown ctx e.withoutNoise = ts.inferOrUnknown ctx e := by
  rw [inferOrUnknown, inferOrUnknown, infer?_withoutNoise]

@[simp] theorem namedArgumentsType_withoutNoise (named : List NamedArgument) :
    ts.namedArgumentsType ctx (namedWithoutNoise named) = ts.namedArgumentsType ctx named := by
  rw [namedArgumentsType, namedArgumentsType, inferNamed_withoutNoise]

/-- The arguments have the types that they had. -/
@[simp] theorem explicitTypes_withoutNoise (a : ArgumentList) :
    ts.explicitTypes ctx a.withoutNoise = ts.explicitTypes ctx a := by
  have hpositional : (a.positional.map Expr.withoutNoise).map (ts.inferOrUnknown ctx) =
      a.positional.map (ts.inferOrUnknown ctx) := by
    rw [List.map_map]
    exact List.map_congr_left fun e _ => inferOrUnknown_withoutNoise ts ctx e
  rw [explicitTypes, explicitTypes, a.named_withoutNoise, a.positional_withoutNoise,
    isEmpty_namedWithoutNoise, namedArgumentsType_withoutNoise, hpositional]

variable {ts ctx}

/-- The enclosing instance comes from the qualifier, and has the type that it had. -/
@[simp] theorem withEnclosing_withoutNoise (e : NewExpr) (c : ClassCandidate) (args : List TypeRef) :
    ts.withEnclosing ctx e.withoutNoise c args = ts.withEnclosing ctx e c args := by
  have hargument : ts.enclosingArgument? ctx e.withoutNoise c = ts.enclosingArgument? ctx e c := by
    unfold enclosingArgument?
    rw [e.qualifier_withoutNoise]
    cases e.qualifier with
    | none => rfl
    | some q => simp only [Option.map_some, inferOrUnknown_withoutNoise]
  rw [withEnclosing, withEnclosing, hargument]

@[simp] theorem argumentTypes_withoutNoise (e : NewExpr) (c : ClassCandidate) :
    ts.argumentTypes ctx e.withoutNoise c = ts.argumentTypes ctx e c := by
  unfold argumentTypes
  rw [e.arguments?_withoutNoise]
  cases e.arguments? with
  | none => simp only [Option.map_none, withEnclosing_withoutNoise]
  | some a =>
    simp only [Option.map_some, explicitTypes_withoutNoise, withEnclosing_withoutNoise]

@[simp] theorem resolveArguments_withoutNoise (applicable : List TypeRef → List ResolveResult)
    (a : ArgumentList) :
    ts.resolveArguments ctx applicable a.withoutNoise = ts.resolveArguments ctx applicable a := by
  rw [resolveArguments, resolveArguments, explicitTypes_withoutNoise, a.named_withoutNoise,
    a.positional_withoutNoise, isEmpty_namedWithoutNoise, namedArgumentsType_withoutNoise,
    List.isEmpty_map]

end TypeSystem

/-! ### Resolution -/

namespace Resolver

variable (r : Resolver) (ts : TypeSystem) (ctx : Context) (e : NewExpr)

theorem classes_withoutNoise : r.classes ts ctx e.withoutNoise = r.classes ts ctx e := by
  rw [classes, classes, e.reference?_withoutNoise]

theorem picked?_withoutNoise : r.picked? ts ctx e.withoutNoise = r.picked? ts ctx e := by
  rw [picked?, picked?, classes_withoutNoise]

theorem variants_withoutNoise : r.variants ts ctx e.withoutNoise = r.variants ts ctx e := by
  rw [variants, variants, classes_withoutNoise]

theorem variantQueries_withoutNoise :
    r.variantQueries ts ctx e.withoutNoise = r.variantQueries ts ctx e := by
  rw [variantQueries, variantQueries, classes_withoutNoise]

theorem applicable_withoutNoise (c : ClassCandidate) :
    r.applicable ts ctx e.withoutNoise c = r.applicable ts ctx e c := by
  funext args
  rw [applicable, applicable, TypeSystem.withEnclosing_withoutNoise]

theorem resolve_withoutNoise (incomplete : Bool) :
    r.resolve ts ctx incomplete e.withoutNoise = r.resolve ts ctx incomplete e := by
  have hin : ∀ c, r.resolveIn ts ctx incomplete e.withoutNoise c = r.resolveIn ts ctx incomplete e c := by
    intro c
    unfold resolveIn
    rw [e.arguments?_withoutNoise, applicable_withoutNoise]
    cases e.arguments? with
    | none => rfl
    | some a => simp only [Option.map_some, TypeSystem.resolveArguments_withoutNoise]
  unfold resolve
  rw [picked?_withoutNoise]
  split
  · exact hin _
  · rfl

theorem queries_withoutNoise (incomplete : Bool) :
    r.queries ts ctx incomplete e.withoutNoise = r.queries ts ctx incomplete e := by
  have hnamed : ∀ c named, r.namedQueries ts ctx e.withoutNoise c (namedWithoutNoise named) =
      r.namedQueries ts ctx e c named := by
    intro c named
    simp only [namedQueries, TypeSystem.namedArgumentsType_withoutNoise, applicable_withoutNoise,
      TypeSystem.withEnclosing_withoutNoise]
  unfold queries
  rw [picked?_withoutNoise]
  split
  · rfl
  · rw [e.arguments?_withoutNoise, TypeSystem.argumentTypes_withoutNoise]
    cases e.arguments? with
    | none => rfl
    | some a =>
      simp only [Option.map_some, ArgumentList.named_withoutNoise, ArgumentList.positional_withoutNoise,
        isEmpty_namedWithoutNoise, List.isEmpty_map, hnamed]

end Resolver

namespace Session

/-- A call is resolved like another that has its id, results and questions. -/
theorem multiResolve_congr {s : Session} {c d : Call} {incomplete : Bool} (hid : c.expr.id = d.expr.id)
    (hvoid : c.isVoid = d.isVoid)
    (hresults : s.resolveUncached c incomplete = s.resolveUncached d incomplete)
    (hqueries : s.queriesOf c incomplete = s.queriesOf d incomplete) :
    s.multiResolve c incomplete = s.multiResolve d incomplete := by
  unfold multiResolve
  rw [hvoid, hid, hresults, hqueries]

/-- **Keywords, blanks and fragments decide nothing.**  Without them, in the expression and in every
`new` expression inside it, an expression has the same type and denotes the same classes, is resolved to
the same constructors, complete and incomplete, and has the same variants; and the session is the same
afterwards. -/
theorem infer_resolve_withoutNoise (s : Session) (ctx : Context) (e : NewExpr) :
    s.types.infer? ctx (.new e.withoutNoise) = s.types.infer? ctx (.new e) ∧
      (∀ incomplete, s.multiResolve ⟨e.withoutNoise, ctx⟩ incomplete =
        s.multiResolve ⟨e, ctx⟩ incomplete) ∧
      s.classes ⟨e.withoutNoise, ctx⟩ = s.classes ⟨e, ctx⟩ ∧
      s.variants ⟨e.withoutNoise, ctx⟩ = s.variants ⟨e, ctx⟩ := by
  refine ⟨TypeSystem.infer?_withoutNoise s.types ctx (.new e), fun incomplete => ?_, ?_, ?_⟩
  · refine multiResolve_congr e.id_withoutNoise ?_ ?_ ?_
    · rw [Call.isVoid, Call.isVoid, e.arrayCount_withoutNoise, e.reference?_withoutNoise]
    · exact s.resolver.resolve_withoutNoise s.types ctx e incomplete
    · exact s.resolver.queries_withoutNoise s.types ctx e incomplete
  · exact s.resolver.classes_withoutNoise s.types ctx e
  · simp only [variants, Resolver.variants_withoutNoise, Resolver.variantQueries_withoutNoise]

end Session
end GroovyNew
