/-
# Resolving the calls of files

A session holds a type system, a resolver, source files and, if results are remembered, a cache.
The files share a modification stamp, apart from those that count their own edits; the cache follows
the shared one.

A `Call` is a `new` expression with its context.  It is its own reference to the constructor that it
invokes, and that reference has no text: its range is empty, it offers no completions, and it can be
neither renamed nor bound to another constructor.

Operations that use the cache change the session; they are functions to the answer and the session
after it.  `Session.journal` lists the questions that constructors were asked, oldest first; an
answer from the cache asks none.
-/

import GroovyNew.Failure
import GroovyNew.Resolve.Cache
import GroovyNew.Resolve.Resolver
import GroovyNew.Syntax.SourceFile
import GroovyNew.TextRange

namespace GroovyNew

/-- A `new` expression in its context. -/
structure Call where
  expr : NewExpr
  context : Context
  deriving Inhabited

/-- Files, and what is needed to resolve their calls. -/
structure Session where
  types : TypeSystem
  resolver : Resolver := {}
  /-- The remembered results; none if nothing is remembered. -/
  cache : Option (ResolveCache (List ResolveResult)) := none
  files : List SourceFile := []
  /-- The stamp that files share. -/
  stamp : Nat := 0
  journal : List ConstructorQuery := []

namespace Call

/-- What the reference of a call is called. -/
def canonicalText : String := "new expression"

/-- The range of the reference of a call in its text. -/
def range : TextRange := .empty

/-- The completions that the reference of a call offers. -/
def completions : List ResolveResult := []

/-- Whether the reference of a call may be left unresolved without being an error. -/
def isSoft : Bool := false

/-- Renaming the target of a call. -/
def rename (_newName : String) : Except Failure Unit := .error (.unsupported "rename" canonicalText)

/-- Binding a call to another constructor. -/
def bind (_target : MemberInfo) : Except Failure Unit := .error (.unsupported "bind" canonicalText)

/-- The call constructs an array, or names no class. -/
def isVoid (c : Call) : Bool := c.expr.arrayCount > 0 || c.expr.reference?.isNone

end Call

namespace Session

/-- The call at a site of a file. -/
def callAt (file : SourceFile) (site : CallSite) : Call := ⟨site.expr, file.context site⟩

/-- The call with the id in a file. -/
def callIn (file : SourceFile) (id : CallSiteId) : Except Failure Call :=
  match file.callSite? id with
  | some site => .ok (callAt file site)
  | none => .error (.unknownCallSite id)

/-- The call with the id in the first file that has one. -/
def call (s : Session) (id : CallSiteId) : Except Failure Call :=
  match s.files.find? (·.hasCallSite id) with
  | some file => callIn file id
  | none => .error (.unknownCallSite id)

/-- All call sites with their files, in order. -/
def callSites (s : Session) : List (SourceFile × CallSite) :=
  s.files.flatMap fun file => file.callSites.map fun site => (file, site)

/-! ### Resolving -/

/-- The results of a call without the cache. -/
def resolveUncached (s : Session) (c : Call) (incomplete : Bool) : List ResolveResult :=
  s.resolver.resolve s.types c.context incomplete c.expr

/-- The questions that the constructors are asked for the results of a call. -/
def queriesOf (s : Session) (c : Call) (incomplete : Bool) : List ConstructorQuery :=
  s.resolver.queries s.types c.context incomplete c.expr

/-- The constructors that a call may invoke; none for the creation of an array and for a call that
names no class. -/
def multiResolve (s : Session) (c : Call) (incomplete : Bool) : List ResolveResult × Session :=
  if c.isVoid then ([], s)
  else match s.cache with
    | none =>
      (s.resolveUncached c incomplete,
        { s with journal := s.journal ++ s.queriesOf c incomplete })
    | some cache =>
      let key := ⟨c.expr.id, incomplete⟩
      let asked := if ((cache.sync s.stamp).value? key).isSome then [] else s.queriesOf c incomplete
      let (results, cache) :=
        cache.getOrCompute s.stamp key fun _ => s.resolveUncached c incomplete
      (results, { s with cache := some cache, journal := s.journal ++ asked })

/-- The constructor that a complete call invokes, if exactly one comes into question. -/
def resolve (s : Session) (c : Call) : Option ResolveResult × Session :=
  match s.multiResolve c false with
  | ([r], s) => (some r, s)
  | (_, s) => (none, s)

/-- The declared constructor that a complete call invokes. -/
def resolveConstructor (s : Session) (c : Call) : Option ConstructorCandidate × Session :=
  let (r, s) := s.resolve c
  (r.bind (·.constructor), s)

/-- The call invokes the given constructor. -/
def isReferenceTo (s : Session) (c : Call) (target : MemberInfo) : Bool × Session :=
  let (k, s) := s.resolveConstructor c
  (match k with
    | some k => k.member == target
    | none => false, s)

/-- Everything that the class reference of a call may denote. -/
def classes (s : Session) (c : Call) : List ReferenceResult :=
  s.resolver.classes s.types c.context c.expr

/-- Every constructor of every class that the reference of a call may denote. -/
def variants (s : Session) (c : Call) : List ResolveResult × Session :=
  (s.resolver.variants s.types c.context c.expr,
    { s with journal := s.journal ++ s.resolver.variantQueries s.types c.context c.expr })

/-- The remembered results of a call. -/
def cached (s : Session) (key : CacheKey) : Option (List ResolveResult) × Session :=
  match s.cache with
  | none => (none, s)
  | some cache =>
    let (results, cache) := cache.get? s.stamp key
    (results, { s with cache := some cache })

/-- Forgets all remembered results. -/
def invalidate (s : Session) : Session := { s with cache := s.cache.map ResolveCache.drop }

/-! ### Editing -/

/-- Moves the shared stamp. -/
def bump (s : Session) : Session := { s with stamp := s.stamp + 1 }

/-- The stamp of a file. -/
def stampOf (s : Session) (file : SourceFile) : Nat :=
  match file.tracker with
  | .own stamp => stamp
  | .shared => s.stamp

/-- Changes the expression at the first call site with the id in the given file, and moves the
stamp of the file.  Without such a site nothing changes. -/
def editIn (s : Session) (index : Nat) (id : CallSiteId) (f : NewExpr → NewExpr) : Session :=
  match s.files[index]? with
  | none => s
  | some file =>
    if file.hasCallSite id then
      match file.tracker with
      | .own stamp =>
        { s with files :=
            s.files.set index { file.editExpr id f with tracker := .own (stamp + 1) } }
      | .shared => { s.bump with files := s.files.set index (file.editExpr id f) }
    else s

/-- The position of the first file that has a call site with the id. -/
def fileOf? (s : Session) (id : CallSiteId) : Option Nat :=
  s.files.findIdx? (·.hasCallSite id)

/-- Changes the expression at the call site with the id, in the first file that has one. -/
def edit (s : Session) (id : CallSiteId) (f : NewExpr → NewExpr) : Session :=
  match s.fileOf? id with
  | some index => s.editIn index id f
  | none => s

end Session
end GroovyNew
