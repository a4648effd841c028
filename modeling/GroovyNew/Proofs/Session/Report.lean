/-
# The report agrees with resolution

`check` reports a diagnosis for each call site and counts those that ask for attention.  A diagnosis
decides in its own order what the resolver decides too: whether an array is created, whether the
reference names a class, what the arguments leave of its constructors.  `Session.Reports` says that the
two never disagree, and `CommandLine.checkOutput_load` proves it of every call site of a loaded session,
whatever has been resolved, diagnosed and edited before, together with the number of problems that `check`
prints.

A diagnosis has three cases (`Session.diagnose_cases`): an array, a reference that names no class,
and the diagnosis of the results.  In the second case nothing can be resolved, since every policy picks
from the classes that the reference names (`Session.resolveUncached_of_isEmpty`).
-/

import GroovyNew.CommandLine.Command
import GroovyNew.Proofs.Session.Transparency

namespace GroovyNew

namespace Diagnosis

/-! ### Diagnoses of results -/

@[simp] theorem isProblem_ofResults (rs : List ResolveResult) :
    (ofResults rs).isProblem = true ↔ rs.length ≠ 1 := by
  match rs with
  | [] => simp [ofResults, isProblem]
  | [r] =>
    obtain ⟨classFqn, constructor, applicability, substitution⟩ := r
    cases constructor <;> simp [ofResults, isProblem]
  | _ :: _ :: _ => simp [ofResults, isProblem]

theorem ofResults_eq_resolved_iff {rs : List ResolveResult} {signature : String} :
    ofResults rs = .resolved signature ↔
      ∃ r k, rs = [r] ∧ r.constructor = some k ∧ k.signature = signature := by
  match rs with
  | [] => simp [ofResults]
  | [r] =>
    obtain ⟨classFqn, constructor, applicability, substitution⟩ := r
    cases constructor <;> simp [ofResults]
  | _ :: _ :: _ => simp [ofResults]

theorem ofResults_eq_defaultConstructor_iff {rs : List ResolveResult} {fqn : String} :
    ofResults rs = .defaultConstructor fqn ↔
      ∃ r, rs = [r] ∧ r.isClassOnly = true ∧ r.classFqn = fqn := by
  match rs with
  | [] => simp [ofResults]
  | [r] =>
    obtain ⟨classFqn, constructor, applicability, substitution⟩ := r
    cases constructor <;> simp [ofResults, ResolveResult.isClassOnly]
  | _ :: _ :: _ => simp [ofResults]

/-- Results are found only where the class is known. -/
theorem ofResults_ne_unresolvedReference (rs : List ResolveResult) :
    ofResults rs ≠ .unresolvedReference := by
  match rs with
  | [] => simp [ofResults]
  | [r] =>
    obtain ⟨classFqn, constructor, applicability, substitution⟩ := r
    cases constructor <;> simp [ofResults]
  | _ :: _ :: _ => simp [ofResults]

end Diagnosis

/-- No policy picks a class from a reference that names none. -/
theorem ClassPick.pick?_of_isEmpty (policy : ClassPick) {results : List ReferenceResult}
    (h : (ReferenceResult.candidates results).isEmpty = true) : policy.pick? results = none := by
  rw [List.isEmpty_iff] at h
  cases policy <;> simp [pick?, h]

namespace Session

variable {ρ : Type}

/-! ### Calls whose reference names no class -/

theorem resolveUncached_of_isEmpty {s : Session} {c : Call}
    (h : (ReferenceResult.candidates (s.classes c)).isEmpty = true) (incomplete : Bool) :
    s.resolveUncached c incomplete = [] := by
  have hpick : s.resolver.picked? s.types c.context c.expr = none :=
    s.resolver.policy.pick?_of_isEmpty h
  simp only [resolveUncached, Resolver.resolve, hpick]

theorem fst_variants_of_isEmpty {s : Session} {c : Call}
    (h : (ReferenceResult.candidates (s.classes c)).isEmpty = true) : (s.variants c).1 = [] := by
  have hclasses : ReferenceResult.candidates (s.resolver.classes s.types c.context c.expr) = [] :=
    List.isEmpty_iff.1 h
  simp only [variants, Resolver.variants, hclasses, List.flatMap_nil]

theorem Coherent.fst_multiResolve_of_isEmpty {s : Session} (h : s.Coherent) {file : SourceFile}
    {site : CallSite} (hm : (file, site) ∈ s.callSites)
    (hc : (ReferenceResult.candidates (s.classes (callAt file site))).isEmpty = true)
    (incomplete : Bool) : (s.multiResolve (callAt file site) incomplete).1 = [] := by
  rw [h.fst_multiResolve hm, resolveUncached_of_isEmpty hc, ite_self]

/-! ### Diagnoses of calls -/

theorem fst_resolve_eq_some_iff {s : Session} {c : Call} {r : ResolveResult} :
    (s.resolve c).1 = some r ↔ (s.multiResolve c false).1 = [r] := by
  unfold resolve
  split
  · rename_i only t hresults
    simp [hresults]
  · rename_i results t hnot hresults
    rw [hresults]
    constructor
    · intro h
      cases h
    · intro h
      exact absurd h (hnot r)

theorem fst_resolveConstructor_eq_some_iff {s : Session} {c : Call} {k : ConstructorCandidate} :
    (s.resolveConstructor c).1 = some k ↔
      ∃ r, (s.multiResolve c false).1 = [r] ∧ r.constructor = some k := by
  simp only [resolveConstructor, Option.bind_eq_some_iff, fst_resolve_eq_some_iff]

/-- The diagnosis of a call says of its results what they are. -/
structure Reports (s : Session) (c : Call) : Prop where
  isProblem_iff : (s.diagnose c).1.isProblem = true ↔
    c.expr.arrayCount = 0 ∧ (s.multiResolve c false).1.length ≠ 1
  resolved_iff : ∀ signature, (s.diagnose c).1 = .resolved signature ↔
    c.expr.arrayCount = 0 ∧ ∃ k, (s.resolveConstructor c).1 = some k ∧ k.signature = signature
  defaultConstructor_iff : ∀ fqn, (s.diagnose c).1 = .defaultConstructor fqn ↔
    c.expr.arrayCount = 0 ∧ ∃ r, (s.resolve c).1 = some r ∧ r.isClassOnly = true ∧ r.classFqn = fqn
  of_unresolvedReference : (s.diagnose c).1 = .unresolvedReference →
    (s.multiResolve c true).1 = [] ∧ (s.multiResolve c false).1 = [] ∧ (s.variants c).1 = []

/-- What a diagnosis can be: that of an array, that of a reference that names no class, and that of the
results. -/
theorem diagnose_cases (s : Session) (c : Call) :
    (c.expr.arrayCount ≠ 0 ∧ (s.diagnose c).1 = .arrayCreation) ∨
      (c.expr.arrayCount = 0 ∧ (ReferenceResult.candidates (s.classes c)).isEmpty = true ∧
        (s.diagnose c).1 = .unresolvedReference) ∨
      (c.expr.arrayCount = 0 ∧ (s.diagnose c).1 = .ofResults (s.multiResolve c false).1) := by
  rw [fst_diagnose]
  by_cases harray : c.expr.arrayCount = 0
  · rw [if_neg (by omega)]
    by_cases hempty : (ReferenceResult.candidates (s.classes c)).isEmpty = true
    · exact .inr (.inl ⟨harray, hempty, if_pos hempty⟩)
    · exact .inr (.inr ⟨harray, if_neg hempty⟩)
  · exact .inl ⟨harray, if_pos (by omega)⟩

/-- Where nothing stale is remembered, diagnoses agree with results. -/
theorem Coherent.reports {s : Session} (h : s.Coherent) {file : SourceFile} {site : CallSite}
    (hm : (file, site) ∈ s.callSites) : s.Reports (callAt file site) := by
  rcases s.diagnose_cases (callAt file site) with ⟨harray, hd⟩ | ⟨harray, hempty, hd⟩ | ⟨harray, hd⟩
  · constructor
    · simp [hd, harray, Diagnosis.isProblem]
    · simp [hd, harray]
    · simp [hd, harray]
    · simp [hd]
  · have hnone := h.fst_multiResolve_of_isEmpty hm hempty
    constructor
    · simp [hd, harray, hnone, Diagnosis.isProblem]
    · simp [hd, fst_resolveConstructor_eq_some_iff, hnone]
    · simp [hd, fst_resolve_eq_some_iff, hnone]
    · exact fun _ => ⟨hnone true, hnone false, fst_variants_of_isEmpty hempty⟩
  · constructor
    · simp [hd, harray]
    · simp only [hd, harray, Diagnosis.ofResults_eq_resolved_iff, fst_resolveConstructor_eq_some_iff,
        true_and]
      intro signature
      constructor
      · rintro ⟨r, k, hr, hk, rfl⟩
        exact ⟨k, ⟨r, hr, hk⟩, rfl⟩
      · rintro ⟨k, ⟨r, hr, hk⟩, rfl⟩
        exact ⟨r, k, hr, hk, rfl⟩
    · simp only [hd, harray, Diagnosis.ofResults_eq_defaultConstructor_iff, fst_resolve_eq_some_iff,
        true_and, implies_true]
    · intro hu
      exact absurd (hd.symm.trans hu) (Diagnosis.ofResults_ne_unresolvedReference _)

/-! ### Diagnoses of all call sites -/

theorem Coherent.diagnose {s : Session} (h : s.Coherent) {file : SourceFile} {site : CallSite}
    (hm : (file, site) ∈ s.callSites) : (s.diagnose (callAt file site)).2.Coherent := by
  rcases s.snd_diagnose (callAt file site) with he | he
  · rwa [he]
  · rw [he]
    exact h.multiResolve hm false

/-- One diagnosis does not change the next. -/
theorem Coherent.fst_diagnoseEach {s : Session} (h : s.Coherent) {sites : List (SourceFile × CallSite)}
    (hsites : ∀ p ∈ sites, p ∈ s.callSites) :
    (s.diagnoseEach sites).1 = sites.map fun p => (p.1, p.2, (s.diagnose (callAt p.1 p.2)).1) := by
  induction sites generalizing s with
  | nil => rfl
  | cons p sites ih =>
    obtain ⟨file, site⟩ := p
    obtain ⟨hm, hsites⟩ := List.forall_mem_cons.1 hsites
    have hnext : (s.diagnose (callAt file site)).2.Coherent := h.diagnose hm
    have halike : s.Alike (s.diagnose (callAt file site)).2 := s.alike_diagnose _
    have hrest := ih hnext fun p hp => halike.callSites ▸ hsites p hp
    have hsame : ∀ p ∈ sites, (p.1, p.2, ((s.diagnose (callAt file site)).2.diagnose
        (callAt p.1 p.2)).1) = (p.1, p.2, (s.diagnose (callAt p.1 p.2)).1) := fun p hp => by
      rw [hnext.fst_diagnose_eq h halike.symm (halike.callSites ▸ hsites p hp)]
    rw [List.map_congr_left hsame] at hrest
    exact congrArg (List.cons _) hrest

/-- The call site creates no array, and its call has no or several complete results. -/
def isUndecided (s : Session) (p : SourceFile × CallSite) : Bool :=
  p.2.expr.arrayCount == 0 && (s.multiResolve (callAt p.1 p.2) false).1.length != 1

theorem Coherent.isProblem_diagnose {s : Session} (h : s.Coherent) {p : SourceFile × CallSite}
    (hp : p ∈ s.callSites) :
    (s.diagnose (callAt p.1 p.2)).1.isProblem = s.isUndecided p := by
  have hreports : s.Reports (callAt p.1 p.2) := h.reports hp
  rw [Bool.eq_iff_iff, hreports.isProblem_iff]
  simp [isUndecided, callAt]

/-! ### Steps -/

/-- The session after steps taken one after the other. -/
def after (s : Session) : List (SessionStep ρ) → Session
  | [] => s
  | step :: steps => (s.perform step).2.after steps

theorem Coherent.after {s : Session} (h : s.Coherent) {steps : List (SessionStep ρ)}
    (hk : s.KeepsIds steps) : (s.after steps).Coherent := by
  induction steps generalizing s with
  | nil => exact h
  | cons step steps ih =>
    obtain ⟨hn, hk⟩ := hk
    exact ih (h.perform hn) hk

end Session

namespace CommandLine

open Session

theorem problemCount_diagnoseAll {s : Session} (h : s.Coherent) :
    problemCount s.diagnoseAll.1 = s.callSites.countP s.isUndecided := by
  rw [diagnoseAll, h.fst_diagnoseEach fun _ hp => hp, problemCount, List.countP_map]
  exact List.countP_congr fun p hp => by rw [Function.comp_apply, h.isProblem_diagnose hp]

/-- The last line that `check` prints. -/
def summary (sites problems : Nat) : String := s!"{sites} call sites, {problems} problems\n"

theorem exists_checkOutput_eq (s : Session) (problemsOnly : Bool) :
    ∃ rows, (rows = "" ∨ ∃ table, rows = table ++ "\n") ∧ checkOutput s problemsOnly =
      rows ++ summary s.diagnoseAll.1.length (problemCount s.diagnoseAll.1) := by
  unfold checkOutput
  refine ⟨_, ?_, rfl⟩
  split
  · exact .inl rfl
  · exact .inr ⟨_, rfl⟩

/-- **The report agrees with resolution.**  Load a workspace and take any steps whose edits keep the ids
of the call sites distinct.  Then the diagnosis of every call site agrees with what its call resolves to,
and the last line that `check` prints tells the number of call sites, and the number of those that create
no array and do not have exactly one complete result. -/
theorem checkOutput_load {ρ : Type} {w : Workspace} {config : ResolveConfig} {s : Session}
    (hs : w.load config = .ok s) (steps : List (SessionStep ρ)) (hk : s.KeepsIds steps) :
    (∀ file site, (file, site) ∈ (s.after steps).callSites →
      (s.after steps).Reports (callAt file site)) ∧
    ∀ problemsOnly, ∃ rows, (rows = "" ∨ ∃ table, rows = table ++ "\n") ∧
      checkOutput (s.after steps) problemsOnly = rows ++ summary (s.after steps).callSites.length
        ((s.after steps).callSites.countP (s.after steps).isUndecided) := by
  obtain ⟨index, -, hn, rfl⟩ := Workspace.load_eq_ok.1 hs
  have hcoherent := (coherent_session hn index config).after hk
  refine ⟨fun file site hm => hcoherent.reports hm, fun problemsOnly => ?_⟩
  obtain ⟨rows, hrows, hout⟩ :=
    exists_checkOutput_eq ((w.session index config).after steps) problemsOnly
  refine ⟨rows, hrows, hout.trans ?_⟩
  have hlength : ((w.session index config).after steps).diagnoseAll.1.length =
      ((w.session index config).after steps).callSites.length := by
    rw [diagnoseAll, hcoherent.fst_diagnoseEach fun _ hp => hp, List.length_map]
  rw [hlength, problemCount_diagnoseAll hcoherent]

/-- The calls `new Point()`, `new Missing()`, `new Point[2]` and `new Point`, of a class without declared
constructors. -/
def outcomes : Workspace where
  classes := [{ fqn := "Point" }]
  files := [{ callSites := [
    { expr := (NewExpr.ofReference 1 ⟨"Point", []⟩).withChild (.arguments {}) },
    { expr := (NewExpr.ofReference 2 ⟨"Missing", []⟩).withChild (.arguments {}) },
    { expr := (NewExpr.ofReference 3 ⟨"Point", []⟩).withChild (.arrayDeclaration 1) },
    { expr := NewExpr.ofReference 4 ⟨"Point", []⟩ }] }]

/-- The first call is resolved and the last one is given a named argument. -/
def touch : List (SessionStep Unit) :=
  [.resolve 1 false, .edit 4 fun e => (e.addNamed ⟨"x", .literal (.integer "3")⟩, ())]

/-- What `outcomes` is loaded as. -/
def outcomesSession : Session := outcomes.session ⟨[ClassIndex.entryOf { fqn := "Point" }]⟩ {}

/-- After `touch` one of the four calls of `outcomes` is a problem, that of the class `Missing`. -/
theorem checkOutput_load_outcomes : outcomes.load {} = .ok outcomesSession ∧
    outcomesSession.KeepsIds touch ∧
    ∃ rows, checkOutput (outcomesSession.after touch) true = rows ++ summary 4 1 := by
  have hload : outcomes.load {} = .ok outcomesSession :=
    Workspace.load_eq_ok.2 ⟨_, rfl, by decide, rfl⟩
  have hk : outcomesSession.KeepsIds touch := by
    refine keepsIds_of_keepsId (by decide) ?_
    simp [touch, KeepsId]
  have hcount : (outcomesSession.after touch).callSites.countP
      (outcomesSession.after touch).isUndecided = 1 := by decide +kernel
  obtain ⟨rows, -, hrows⟩ := (checkOutput_load hload touch hk).2 true
  rw [hcount] at hrows
  exact ⟨hload, hk, rows, hrows⟩

end CommandLine
end GroovyNew
