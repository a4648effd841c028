/-
# A cache changes no answer

A loaded session is asked for the constructors of calls and for diagnoses, and its expressions are
edited, in any order.  `Session.answers_load` says that it gives the same answers with a cache as
without one, as long as the edits keep the ids of the call sites apart.

What a session would compute anew does not depend on its cache (`Session.Alike`).  So it is enough that
the cache holds nothing else: `Session.Coherent` says of every value at the stamp of the session that it
is the present result of the call site with its id.  A look-up keeps this because no other site has the
id, and an edit because it moves the stamp, which leaves no value to speak of.

Edits that give no expression another id, such as adding a named argument, keep the ids apart
(`Session.keepsIds_of_keepsId`).
-/

import GroovyNew.Diagnosis
import Mathlib.Data.List.Nodup

namespace GroovyNew

/-- What is done to a loaded session.  Editing an expression may give a value, of a type `ρ`. -/
inductive SessionStep (ρ : Type) where
  /-- Resolves the call with the id. -/
  | resolve (id : CallSiteId) (incomplete : Bool)
  /-- Diagnoses the call site at the place among all call sites. -/
  | diagnose (place : Nat)
  /-- Changes the expression with the id. -/
  | edit (id : CallSiteId) (f : NewExpr → NewExpr × ρ)

/-- What a step answers. -/
inductive SessionAnswer (ρ : Type) where
  | results (results : Except Failure (List ResolveResult))
  /-- No diagnosis if there is no such place. -/
  | diagnosis (d : Option Diagnosis)
  /-- No value if there is no such expression. -/
  | edited (value : Option ρ)

namespace Session

variable {ρ : Type}

/-- The answer to a step, and the session after it. -/
def perform (s : Session) : SessionStep ρ → SessionAnswer ρ × Session
  | .resolve id incomplete =>
    match s.call id with
    | .error e => (.results (.error e), s)
    | .ok c =>
      let (results, s) := s.multiResolve c incomplete
      (.results (.ok results), s)
  | .diagnose place =>
    match s.callSites[place]? with
    | none => (.diagnosis none, s)
    | some (file, site) =>
      let (d, s) := s.diagnose (callAt file site)
      (.diagnosis (some d), s)
  | .edit id f =>
    (.edited ((s.call id).toOption.map fun c => (f c.expr).2), s.edit id fun e => (f e).1)

/-- The answers to steps taken one after the other. -/
def answers (s : Session) : List (SessionStep ρ) → List (SessionAnswer ρ)
  | [] => []
  | step :: steps => (s.perform step).1 :: (s.perform step).2.answers steps

/-- The ids of all call sites. -/
def siteIds (s : Session) : List CallSiteId := s.callSites.map (·.2.id)

/-- The ids of the call sites are distinct after each of the steps. -/
def KeepsIds (s : Session) : List (SessionStep ρ) → Prop
  | [] => True
  | step :: steps => (s.perform step).2.siteIds.Nodup ∧ (s.perform step).2.KeepsIds steps

/-! ### Sessions that would compute the same -/

/-- The sessions agree in all that results are computed from. -/
structure Alike (s t : Session) : Prop where
  types : s.types = t.types
  resolver : s.resolver = t.resolver
  files : s.files = t.files
  stamp : s.stamp = t.stamp

theorem Alike.refl (s : Session) : s.Alike s := ⟨rfl, rfl, rfl, rfl⟩

theorem Alike.symm {s t : Session} (h : s.Alike t) : t.Alike s :=
  ⟨h.types.symm, h.resolver.symm, h.files.symm, h.stamp.symm⟩

theorem Alike.trans {s t u : Session} (h₁ : s.Alike t) (h₂ : t.Alike u) : s.Alike u :=
  ⟨h₁.types.trans h₂.types, h₁.resolver.trans h₂.resolver, h₁.files.trans h₂.files,
    h₁.stamp.trans h₂.stamp⟩

theorem Alike.resolveUncached {s t : Session} (h : s.Alike t) (c : Call) (incomplete : Bool) :
    s.resolveUncached c incomplete = t.resolveUncached c incomplete := by
  unfold Session.resolveUncached
  rw [h.types, h.resolver]

theorem Alike.classes {s t : Session} (h : s.Alike t) (c : Call) : s.classes c = t.classes c := by
  unfold Session.classes
  rw [h.types, h.resolver]

theorem Alike.callSites {s t : Session} (h : s.Alike t) : s.callSites = t.callSites := by
  unfold Session.callSites
  rw [h.files]

theorem Alike.call {s t : Session} (h : s.Alike t) (id : CallSiteId) : s.call id = t.call id := by
  unfold Session.call
  rw [h.files]

theorem Alike.edit {s t : Session} (h : s.Alike t) (id : CallSiteId) (f : NewExpr → NewExpr) :
    (s.edit id f).Alike (t.edit id f) := by
  unfold Session.edit fileOf?
  rw [h.files]
  split
  · unfold editIn
    rw [h.files]
    split
    · exact h
    · split
      · split
        · exact ⟨h.types, h.resolver, rfl, h.stamp⟩
        · exact ⟨h.types, h.resolver, rfl, congrArg (· + 1) h.stamp⟩
      · exact h
  · exact h

/-- Resolving a call with a cache: what it answers, and what the cache becomes. -/
theorem multiResolve_of_cache {s : Session} {cache : ResolveCache (List ResolveResult)}
    (hc : s.cache = some cache) {c : Call} (hv : c.isVoid = false) (incomplete : Bool) :
    (s.multiResolve c incomplete).1 = (cache.getOrCompute s.stamp ⟨c.expr.id, incomplete⟩ fun _ =>
        s.resolveUncached c incomplete).1 ∧
      (s.multiResolve c incomplete).2.cache = some (cache.getOrCompute s.stamp
        ⟨c.expr.id, incomplete⟩ fun _ => s.resolveUncached c incomplete).2 := by
  unfold multiResolve
  simp only [hv, hc, Bool.false_eq_true, if_false, and_self]

theorem alike_multiResolve (s : Session) (c : Call) (incomplete : Bool) :
    s.Alike (s.multiResolve c incomplete).2 := by
  unfold multiResolve
  split
  · exact .refl s
  · split <;> exact ⟨rfl, rfl, rfl, rfl⟩

/-! ### Call sites -/

theorem mem_callSites {s : Session} {file : SourceFile} {site : CallSite} :
    (file, site) ∈ s.callSites ↔ file ∈ s.files ∧ site ∈ file.callSites := by
  simp only [callSites, List.mem_flatMap, List.mem_map, Prod.mk.injEq]
  constructor
  · rintro ⟨f, hf, x, hx, rfl, rfl⟩
    exact ⟨hf, hx⟩
  · rintro ⟨hf, hx⟩
    exact ⟨file, hf, site, hx, rfl, rfl⟩

/-- A call that is found by its id is one of a call site. -/
theorem exists_site_of_call {s : Session} {id : CallSiteId} {c : Call} (h : s.call id = .ok c) :
    ∃ file site, (file, site) ∈ s.callSites ∧ c = callAt file site := by
  unfold Session.call callIn at h
  split at h
  · rename_i file hfile
    split at h
    · rename_i site hsite
      obtain rfl := Except.ok.inj h
      exact ⟨file, site, mem_callSites.2 ⟨List.mem_of_find?_eq_some hfile,
        List.mem_of_find?_eq_some hsite⟩, rfl⟩
    · cases h
  · cases h

/-! ### Nothing stale is remembered -/

/-- A session whose call sites have distinct ids and count their edits together, and whose cache holds at
the present stamp nothing but present results. -/
structure Coherent (s : Session) : Prop where
  nodup : s.siteIds.Nodup
  shared : ∀ file ∈ s.files, file.tracker = .shared
  stamp_le : ∀ cache, s.cache = some cache → cache.stamp ≤ s.stamp
  fresh : ∀ cache, s.cache = some cache → cache.stamp = s.stamp →
    ∀ file site, (file, site) ∈ s.callSites → ∀ incomplete results,
      cache.value? ⟨site.id, incomplete⟩ = some results →
        results = s.resolveUncached (callAt file site) incomplete

/-- A session without a cache remembers nothing stale. -/
theorem coherent_of_cache_eq_none {s : Session} (hn : s.siteIds.Nodup)
    (hs : ∀ file ∈ s.files, file.tracker = .shared) (hc : s.cache = none) : s.Coherent where
  nodup := hn
  shared := hs
  stamp_le cache h := by rw [hc] at h; cases h
  fresh cache h := by rw [hc] at h; cases h

/-- Distinct ids tell call sites apart. -/
theorem Coherent.eq_of_id_eq {s : Session} (h : s.Coherent) {p q : SourceFile × CallSite}
    (hp : p ∈ s.callSites) (hq : q ∈ s.callSites) (hid : p.2.id = q.2.id) : p = q :=
  List.inj_on_of_nodup_map h.nodup hp hq hid

/-- What is remembered for a call site once the cache has followed the stamp is its present result. -/
theorem Coherent.eq_of_value?_sync {s : Session} (h : s.Coherent)
    {cache : ResolveCache (List ResolveResult)} (hc : s.cache = some cache) {file : SourceFile}
    {site : CallSite} (hm : (file, site) ∈ s.callSites) {incomplete : Bool}
    {results : List ResolveResult}
    (hv : (cache.sync s.stamp).value? ⟨site.id, incomplete⟩ = some results) :
    results = s.resolveUncached (callAt file site) incomplete := by
  rw [ResolveCache.value?_sync] at hv
  split at hv
  · rename_i hs
    exact h.fresh cache hc hs file site hm incomplete results hv
  · cases hv

/-- The result of a call is the one that would be computed anew, whatever is remembered. -/
theorem Coherent.fst_multiResolve {s : Session} (h : s.Coherent) {file : SourceFile}
    {site : CallSite} (hm : (file, site) ∈ s.callSites) (incomplete : Bool) :
    (s.multiResolve (callAt file site) incomplete).1 =
      if (callAt file site).isVoid then []
      else s.resolveUncached (callAt file site) incomplete := by
  cases hv : (callAt file site).isVoid with
  | true => simp [multiResolve, hv]
  | false =>
    cases hc : s.cache with
    | none => simp [multiResolve, hv, hc]
    | some cache =>
      rw [(multiResolve_of_cache hc hv incomplete).1, ResolveCache.fst_getOrCompute]
      cases hr : (cache.sync s.stamp).value? ⟨site.id, incomplete⟩ with
      | none => exact congrArg (Option.getD · _) hr
      | some results =>
        rw [← h.eq_of_value?_sync hc hm hr]
        exact congrArg (Option.getD · _) hr

/-- Resolving keeps a session coherent: what is newly remembered is a present result, and no other site
has the id. -/
theorem Coherent.multiResolve {s : Session} (h : s.Coherent) {file : SourceFile} {site : CallSite}
    (hm : (file, site) ∈ s.callSites) (incomplete : Bool) :
    (s.multiResolve (callAt file site) incomplete).2.Coherent := by
  have halike := s.alike_multiResolve (callAt file site) incomplete
  have hnodup : (s.multiResolve (callAt file site) incomplete).2.siteIds.Nodup := by
    rw [siteIds, ← halike.callSites]
    exact h.nodup
  have hshared : ∀ f ∈ (s.multiResolve (callAt file site) incomplete).2.files,
      f.tracker = .shared := by
    rw [← halike.files]
    exact h.shared
  cases hv : (callAt file site).isVoid with
  | true =>
    have hself : s.multiResolve (callAt file site) incomplete = ([], s) := by
      simp [Session.multiResolve, hv]
    rwa [hself]
  | false =>
    cases hc : s.cache with
    | none =>
      exact coherent_of_cache_eq_none hnodup hshared (by simp [Session.multiResolve, hv, hc])
    | some cache =>
      obtain ⟨hfst, hcache⟩ := multiResolve_of_cache hc hv incomplete
      refine ⟨hnodup, hshared, fun cache' hc' => ?_, fun cache' hc' hs => ?_⟩
      · obtain rfl := Option.some.inj (hcache.symm.trans hc')
        exact Nat.le_of_eq (by rw [ResolveCache.stamp_getOrCompute, halike.stamp])
      · obtain rfl := Option.some.inj (hcache.symm.trans hc')
        intro file' site' hm' incomplete' results hr
        rw [← halike.callSites] at hm'
        rw [← halike.resolveUncached]
        rw [ResolveCache.value?_getOrCompute] at hr
        split at hr
        · rename_i hkey
          obtain ⟨hid, rfl⟩ := CacheKey.mk.inj hkey
          obtain ⟨rfl, rfl⟩ := Prod.mk.inj (h.eq_of_id_eq hm' hm hid)
          rw [← Option.some.inj hr, ← hfst, h.fst_multiResolve hm, hv]
          rfl
        · exact h.eq_of_value?_sync hc hm' hr

/-- An edit where the files count their edits together. -/
theorem edit_eq {s : Session} (hs : ∀ file ∈ s.files, file.tracker = .shared) (id : CallSiteId)
    (f : NewExpr → NewExpr) :
    s.edit id f = s ∨ ∃ (index : Nat) (file : SourceFile), file ∈ s.files ∧
      s.edit id f = { s.bump with files := s.files.set index (file.editExpr id f) } := by
  unfold Session.edit
  split
  · rename_i index _
    unfold editIn
    split
    · exact .inl rfl
    · rename_i file hfile
      have hmem : file ∈ s.files := List.mem_of_getElem? hfile
      rw [hs file hmem]
      by_cases hsite : file.hasCallSite id = true
      · exact .inr ⟨index, file, hmem, by rw [if_pos hsite]⟩
      · exact .inl (if_neg hsite)
  · exact .inl rfl

/-- An edit keeps a session coherent, if it keeps the ids distinct: the stamp has moved past that of the
cache. -/
theorem Coherent.edit {s : Session} (h : s.Coherent) {id : CallSiteId} {f : NewExpr → NewExpr}
    (hn : (s.edit id f).siteIds.Nodup) : (s.edit id f).Coherent := by
  rcases edit_eq h.shared id f with he | ⟨index, file, hfile, he⟩
  · rwa [he]
  · rw [he] at hn ⊢
    refine ⟨hn, fun f' hf' => ?_, fun cache hc => Nat.le_succ_of_le (h.stamp_le cache hc),
      fun cache hc hs => ?_⟩
    · rcases List.mem_or_eq_of_mem_set hf' with hf' | rfl
      · exact h.shared f' hf'
      · exact h.shared file hfile
    · have hle : cache.stamp ≤ s.stamp := h.stamp_le cache hc
      have hs' : cache.stamp = s.stamp + 1 := hs
      omega

/-! ### Steps -/

/-- The diagnosis of a call, by its results. -/
theorem fst_diagnose (s : Session) (c : Call) : (s.diagnose c).1 =
    if c.expr.arrayCount > 0 then .arrayCreation
    else if (ReferenceResult.candidates (s.classes c)).isEmpty then .unresolvedReference
    else .ofResults (s.multiResolve c false).1 := by
  unfold diagnose
  split
  · rfl
  · split <;> rfl

theorem snd_diagnose (s : Session) (c : Call) :
    (s.diagnose c).2 = s ∨ (s.diagnose c).2 = (s.multiResolve c false).2 := by
  unfold diagnose
  split
  · exact .inl rfl
  · split
    · exact .inl rfl
    · exact .inr rfl

/-- A step keeps a session coherent, if it keeps the ids distinct. -/
theorem Coherent.perform {s : Session} (h : s.Coherent) {step : SessionStep ρ}
    (hn : (s.perform step).2.siteIds.Nodup) : (s.perform step).2.Coherent := by
  cases step with
  | resolve id incomplete =>
    simp only [Session.perform]
    cases hcall : s.call id with
    | error e => exact h
    | ok c =>
      obtain ⟨file, site, hm, rfl⟩ := exists_site_of_call hcall
      exact h.multiResolve hm incomplete
  | diagnose place =>
    simp only [Session.perform]
    cases hplace : s.callSites[place]? with
    | none => exact h
    | some p =>
      obtain ⟨file, site⟩ := p
      have hm := h.multiResolve (List.mem_of_getElem? hplace) false
      rcases s.snd_diagnose (callAt file site) with he | he
      · simp only [he]
        exact h
      · simp only [he]
        exact hm
  | edit id f => exact h.edit hn

/-- Coherent sessions that would compute the same give the same diagnosis. -/
theorem Coherent.fst_diagnose_eq {s t : Session} (hs : s.Coherent) (ht : t.Coherent)
    (ha : s.Alike t) {file : SourceFile} {site : CallSite} (hm : (file, site) ∈ s.callSites) :
    (s.diagnose (callAt file site)).1 = (t.diagnose (callAt file site)).1 := by
  have hm' : (file, site) ∈ t.callSites := ha.callSites ▸ hm
  rw [fst_diagnose, fst_diagnose, ha.classes, hs.fst_multiResolve hm, ht.fst_multiResolve hm',
    ha.resolveUncached]

/-- Resolving keeps sessions alike. -/
theorem Alike.multiResolve {s t : Session} (h : s.Alike t) (c : Call) (incomplete : Bool) :
    (s.multiResolve c incomplete).2.Alike (t.multiResolve c incomplete).2 :=
  (s.alike_multiResolve c incomplete).symm.trans (h.trans (t.alike_multiResolve c incomplete))

theorem alike_diagnose (s : Session) (c : Call) : s.Alike (s.diagnose c).2 := by
  rcases s.snd_diagnose c with he | he
  · rw [he]
    exact .refl s
  · rw [he]
    exact s.alike_multiResolve c false

/-- Diagnosing keeps sessions alike. -/
theorem Alike.diagnose {s t : Session} (h : s.Alike t) (c : Call) :
    (s.diagnose c).2.Alike (t.diagnose c).2 :=
  (s.alike_diagnose c).symm.trans (h.trans (t.alike_diagnose c))

/-- Coherent sessions that would compute the same give the same answer to a step, and would compute the
same after it. -/
theorem Coherent.perform_eq {s t : Session} (hs : s.Coherent) (ht : t.Coherent) (ha : s.Alike t)
    (step : SessionStep ρ) :
    (s.perform step).1 = (t.perform step).1 ∧ (s.perform step).2.Alike (t.perform step).2 := by
  cases step with
  | resolve id incomplete =>
    simp only [Session.perform, ← ha.call]
    cases hcall : s.call id with
    | error e => exact ⟨rfl, ha⟩
    | ok c =>
      obtain ⟨file, site, hm, rfl⟩ := exists_site_of_call hcall
      have hm' : (file, site) ∈ t.callSites := ha.callSites ▸ hm
      refine ⟨congrArg (fun r => SessionAnswer.results (.ok r)) ?_, ha.multiResolve _ incomplete⟩
      rw [hs.fst_multiResolve hm, ht.fst_multiResolve hm', ha.resolveUncached]
  | diagnose place =>
    simp only [Session.perform, ← ha.callSites]
    cases hplace : s.callSites[place]? with
    | none => exact ⟨rfl, ha⟩
    | some p =>
      obtain ⟨file, site⟩ := p
      have hd := hs.fst_diagnose_eq ht ha (List.mem_of_getElem? hplace)
      exact ⟨congrArg (fun d => SessionAnswer.diagnosis (some d)) hd, ha.diagnose _⟩
  | edit id f =>
    refine ⟨?_, ha.edit id _⟩
    simp only [Session.perform, ha.call]

/-- Coherent sessions that would compute the same give the same answers. -/
theorem Coherent.answers_eq {s t : Session} (hs : s.Coherent) (ht : t.Coherent) (ha : s.Alike t)
    {steps : List (SessionStep ρ)} (hk : s.KeepsIds steps) : s.answers steps = t.answers steps := by
  induction steps generalizing s t with
  | nil => rfl
  | cons step steps ih =>
    obtain ⟨hn, hk⟩ := hk
    obtain ⟨hanswer, halike⟩ := hs.perform_eq ht ha step
    have hn' : (t.perform step).2.siteIds.Nodup := by
      rw [siteIds, ← halike.callSites]
      exact hn
    rw [answers, answers, hanswer, ih (hs.perform hn) (ht.perform hn') halike hk]

/-! ### Edits that keep the ids distinct -/

/-- The step gives no expression another id. -/
def KeepsId : SessionStep ρ → Prop
  | .edit _ f => ∀ e, (f e).1.id = e.id
  | _ => True

theorem ids_modifyFirst {p : CallSite → Bool} {f : NewExpr → NewExpr} (hf : ∀ e, (f e).id = e.id)
    (sites : List CallSite) :
    (modifyFirst p (fun site => { site with expr := f site.expr }) sites).map CallSite.id =
      sites.map CallSite.id := by
  induction sites with
  | nil => rfl
  | cons site sites ih =>
    unfold modifyFirst
    split
    · rw [List.map_cons, List.map_cons]
      exact congrArg (· :: _) (hf site.expr)
    · rw [List.map_cons, List.map_cons, ih]

/-- The ids are those of the call sites of the files, one file after the other. -/
theorem siteIds_eq_flatten (s : Session) :
    s.siteIds = (s.files.map fun file => file.callSites.map CallSite.id).flatten := by
  simp only [siteIds, callSites, List.map_flatMap, List.map_map, ← List.flatMap_def]
  rfl

/-- Replacing an item by one that `g` does not tell from it changes nothing for `g`. -/
theorem map_set_of_eq {β γ : Type} {g : β → γ} {items : List β} {index : Nat} {a b : β}
    (ha : items[index]? = some a) (hg : g b = g a) : (items.set index b).map g = items.map g := by
  obtain ⟨hi, rfl⟩ := List.getElem?_eq_some_iff.1 ha
  have hi' : index < (items.map g).length := by rwa [List.length_map]
  have hget : (items.map g)[index] = g items[index] := List.getElem_map g
  rw [List.map_set, hg, ← hget, List.set_getElem_self hi']

/-- An edit that keeps the id of its expression keeps all ids. -/
theorem siteIds_edit (s : Session) (id : CallSiteId) {f : NewExpr → NewExpr}
    (hf : ∀ e, (f e).id = e.id) : (s.edit id f).siteIds = s.siteIds := by
  have hids (file : SourceFile) : (file.editExpr id f).callSites.map CallSite.id =
      file.callSites.map CallSite.id := ids_modifyFirst hf file.callSites
  unfold Session.edit
  split
  · unfold editIn
    split
    · rfl
    · rename_i file hfile
      split
      · split
        · rw [siteIds_eq_flatten, siteIds_eq_flatten]
          exact congrArg List.flatten (map_set_of_eq hfile (hids file))
        · rw [siteIds_eq_flatten, siteIds_eq_flatten]
          exact congrArg List.flatten (map_set_of_eq hfile (hids file))
      · rfl
  · rfl

theorem siteIds_perform (s : Session) {step : SessionStep ρ} (hstep : KeepsId step) :
    (s.perform step).2.siteIds = s.siteIds := by
  cases step with
  | resolve id incomplete =>
    simp only [Session.perform]
    cases s.call id with
    | error e => rfl
    | ok c => rw [siteIds, siteIds, (s.alike_multiResolve c incomplete).callSites]
  | diagnose place =>
    simp only [Session.perform]
    cases s.callSites[place]? with
    | none => rfl
    | some p => rw [siteIds, siteIds, (s.alike_diagnose _).callSites]
  | edit id f => exact s.siteIds_edit id hstep

/-- Steps that give no expression another id keep the ids distinct. -/
theorem keepsIds_of_keepsId {s : Session} (hn : s.siteIds.Nodup) {steps : List (SessionStep ρ)}
    (hsteps : ∀ step ∈ steps, KeepsId step) : s.KeepsIds steps := by
  induction steps generalizing s with
  | nil => trivial
  | cons step steps ih =>
    have hids := s.siteIds_perform (hsteps step List.mem_cons_self)
    have hn' : (s.perform step).2.siteIds.Nodup := by rwa [hids]
    exact ⟨hn', ih hn' fun other ho => hsteps other (List.mem_cons_of_mem step ho)⟩

/-! ### Loaded sessions -/

theorem siteIds_session (w : Workspace) (index : ClassIndex) (config : ResolveConfig) :
    (w.session index config).siteIds = w.siteIds.map (·.1) := by
  simp only [siteIds, callSites, Workspace.session, Workspace.siteIds, List.map_flatMap, List.map_map,
    List.flatMap_map]
  rfl

/-- The session for a workspace remembers nothing yet. -/
theorem coherent_session {w : Workspace} (hn : (w.siteIds.map (·.1)).Nodup) (index : ClassIndex)
    (config : ResolveConfig) : (w.session index config).Coherent where
  nodup := by rwa [siteIds_session]
  shared file hfile := by
    obtain ⟨original, -, rfl⟩ := List.mem_map.1 hfile
    rfl
  stamp_le cache hc := by
    obtain ⟨-, hc⟩ := Option.ite_none_right_eq_some.1 hc
    obtain rfl := Option.some.inj hc
    exact Nat.le_refl 0
  fresh cache hc _ file site _ incomplete results hv := by
    obtain ⟨-, hc⟩ := Option.ite_none_right_eq_some.1 hc
    obtain rfl := Option.some.inj hc
    cases hv

/-- **A cache changes no answer.**  Load a workspace with any policy for ambiguous references, and take
any steps whose edits keep the ids of the call sites distinct.  Loaded with a cache it gives at each step
the answer that it gives when loaded without one. -/
theorem answers_load {w : Workspace} {policy : ClassPick} {s : Session}
    (hs : w.load { classPick := policy, cache := true } = .ok s) (steps : List (SessionStep ρ))
    (hk : s.KeepsIds steps) : ∃ t, w.load { classPick := policy, cache := false } = .ok t ∧
      s.answers steps = t.answers steps := by
  obtain ⟨index, hi, hn, rfl⟩ := Workspace.load_eq_ok.1 hs
  refine ⟨w.session index { classPick := policy, cache := false },
    Workspace.load_eq_ok.2 ⟨index, hi, hn, rfl⟩, ?_⟩
  have halike : (w.session index { classPick := policy, cache := true }).Alike
      (w.session index { classPick := policy, cache := false }) := ⟨rfl, rfl, rfl, rfl⟩
  exact (coherent_session hn index _).answers_eq (coherent_session hn index _) halike hk

/-- A file with two calls of one class. -/
def twoCalls : Workspace where
  classes := [{ fqn := "Point" }]
  files := [{ callSites := [{ expr := (NewExpr.ofReference 1 ⟨"Point", []⟩).withChild (.arguments {}) },
    { expr := (NewExpr.ofReference 2 ⟨"Point", []⟩).withChild (.arguments {}) }] }]

/-- A call is resolved twice, edited, and resolved again; then the other call is diagnosed. -/
def revisit : List (SessionStep Unit) :=
  [.resolve 1 false, .resolve 1 false,
    .edit 1 fun e => (e.addNamed ⟨"x", .literal (.integer "3")⟩, ()), .resolve 1 false, .diagnose 1]

/-- The steps of `revisit` on `twoCalls` are answered alike. -/
theorem answers_load_twoCalls : ∃ s t, twoCalls.load { cache := true } = .ok s ∧
    s.KeepsIds revisit ∧ twoCalls.load { cache := false } = .ok t ∧
      s.answers revisit = t.answers revisit := by
  have hload : twoCalls.load { cache := true } =
      .ok (twoCalls.session ⟨[ClassIndex.entryOf { fqn := "Point" }]⟩ { cache := true }) :=
    Workspace.load_eq_ok.2 ⟨_, rfl, by decide, rfl⟩
  have hk : (twoCalls.session ⟨[ClassIndex.entryOf { fqn := "Point" }]⟩ { cache := true }).KeepsIds
      revisit := by
    refine keepsIds_of_keepsId (by decide) ?_
    simp [revisit, KeepsId]
  obtain ⟨t, ht, hanswers⟩ := answers_load hload revisit hk
  exact ⟨_, t, hload, hk, ht, hanswers⟩

end Session
end GroovyNew
