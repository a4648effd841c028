/-
# Loading accepts the consistent workspaces

Loading makes three checks: no class is declared twice, the type of every constructor parameter is the
text of a type, and no two call sites have the same id.  `Workspace.load_spec` says that it refuses
nothing else, which site it blames for a repeated id, and what the session that it yields knows of the
call sites.

The first two checks are those of indexing (`ClassIndex.exists_ofDecls_eq_ok`), the third is
`Workspace.firstRepeat?`.  Looking up a call takes two steps, a file with the id and then a site with it;
that the two steps reach the site one meant is the one place where distinct ids are used
(`Session.call_id`).
-/

import GroovyNew.Proofs.ClassIndex.Indexing
import GroovyNew.Proofs.Session.Transparency

namespace GroovyNew

namespace Session

/-! ### Looking up a call -/

theorem hasCallSite_iff {file : SourceFile} {id : CallSiteId} :
    file.hasCallSite id = true ↔ ∃ site ∈ file.callSites, site.id = id := by
  simp [SourceFile.hasCallSite, SourceFile.callSite?, List.find?_isSome]

/-- What looking up a call can yield: a call site with the id, or an error if there is none. -/
theorem call_cases (s : Session) (id : CallSiteId) :
    (∃ file site, (file, site) ∈ s.callSites ∧ site.id = id ∧ s.call id = .ok (callAt file site)) ∨
      (id ∉ s.siteIds ∧ s.call id = .error (.unknownCallSite id)) := by
  unfold call
  cases hfile : s.files.find? (·.hasCallSite id) with
  | none =>
    refine .inr ⟨fun hid => ?_, rfl⟩
    obtain ⟨⟨file, site⟩, hm, hsite⟩ := List.mem_map.1 hid
    obtain ⟨hf, hs⟩ := mem_callSites.1 hm
    exact List.find?_eq_none.1 hfile file hf (hasCallSite_iff.2 ⟨site, hs, hsite⟩)
  | some file =>
    have hhas : file.hasCallSite id = true := by simpa using List.find?_some hfile
    obtain ⟨site, hsite⟩ := Option.isSome_iff_exists.1 hhas
    have hid : site.id = id := by simpa using List.find?_some hsite
    refine .inl ⟨file, site, mem_callSites.2 ⟨List.mem_of_find?_eq_some hfile,
      List.mem_of_find?_eq_some hsite⟩, hid, ?_⟩
    simp only [callIn, hsite]

/-- **If ids are distinct, the id of a call site finds the call at that site.** -/
theorem call_id {s : Session} (hn : s.siteIds.Nodup) {file : SourceFile} {site : CallSite}
    (hm : (file, site) ∈ s.callSites) : s.call site.id = .ok (callAt file site) := by
  rcases s.call_cases site.id with ⟨file', site', hm', hid, hcall⟩ | ⟨hid, -⟩
  · have hsame : (file', site') = (file, site) := List.inj_on_of_nodup_map hn hm' hm hid
    obtain ⟨rfl, rfl⟩ := Prod.mk.inj hsame
    exact hcall
  · exact absurd (List.mem_map_of_mem hm) hid

theorem call_of_not_mem {s : Session} {id : CallSiteId} (hid : id ∉ s.siteIds) :
    s.call id = .error (.unknownCallSite id) := by
  rcases s.call_cases id with ⟨file, site, hm, rfl, -⟩ | ⟨-, hcall⟩
  · exact absurd (List.mem_map_of_mem hm) hid
  · exact hcall

end Session

namespace Workspace

/-! ### Loading -/

/-- All call sites with their files, in order. -/
def callSites (w : Workspace) : List (SourceFile × CallSite) :=
  w.files.flatMap fun file => file.callSites.map fun site => (file, site)

theorem siteIds_eq_map (w : Workspace) :
    w.siteIds = w.callSites.map fun p => (p.2.id, pathText p.1) := by
  simp only [siteIds, callSites, List.map_flatMap, List.map_map]
  rfl

theorem map_fst_siteIds (w : Workspace) : w.siteIds.map (·.1) = w.callSites.map (·.2.id) := by
  rw [siteIds_eq_map, List.map_map]
  rfl

/-- The first repetition is an item whose id has occurred, and no id occurs twice before it. -/
theorem exists_of_firstRepeat?_eq_some {seen : List CallSiteId} {p : CallSiteId × String}
    {items : List (CallSiteId × String)} (h : firstRepeat? seen items = some p) :
    ∃ before after, items = before ++ p :: after ∧ (before.map (·.1)).Nodup ∧
      (∀ q ∈ before, q.1 ∉ seen) ∧ (p.1 ∈ seen ∨ p.1 ∈ before.map (·.1)) := by
  induction items generalizing seen with
  | nil => cases h
  | cons q items ih =>
    obtain ⟨id, path⟩ := q
    rw [firstRepeat?] at h
    by_cases hid : seen.contains id = true
    · rw [if_pos hid] at h
      obtain rfl := Option.some.inj h
      exact ⟨[], items, rfl, List.nodup_nil, fun _ hq => absurd hq List.not_mem_nil,
        .inl (List.contains_iff_mem.1 hid)⟩
    · rw [if_neg hid] at h
      obtain ⟨before, after, rfl, hn, hseen, hp⟩ := ih h
      have hfresh : id ∉ before.map (·.1) := fun hmem => by
        obtain ⟨r, hr, hrid⟩ := List.mem_map.1 hmem
        exact hseen r hr (hrid ▸ List.mem_cons_self)
      refine ⟨(id, path) :: before, after, rfl, List.nodup_cons.2 ⟨hfresh, hn⟩, ?_, ?_⟩
      · intro r hr
        rcases List.mem_cons.1 hr with rfl | hr
        · exact fun hmem => hid (List.contains_iff_mem.2 hmem)
        · exact fun hmem => hseen r hr (List.mem_cons_of_mem id hmem)
      · rw [List.map_cons]
        rcases hp with hp | hp
        · rcases List.mem_cons.1 hp with hp | hp
          · exact .inr (hp ▸ List.mem_cons_self)
          · exact .inl hp
        · exact .inr (List.mem_cons_of_mem id hp)

/-- A workspace with a repeated id has a first call site that repeats one. -/
theorem exists_firstRepeat?_of_not_nodup {w : Workspace}
    (hn : ¬(w.callSites.map (·.2.id)).Nodup) :
    ∃ before file site after, w.callSites = before ++ (file, site) :: after ∧
      (before.map (·.2.id)).Nodup ∧ site.id ∈ before.map (·.2.id) ∧
      firstRepeat? [] w.siteIds = some (site.id, pathText file) := by
  cases hr : firstRepeat? [] w.siteIds with
  | none =>
    rw [← map_fst_siteIds] at hn
    exact absurd (firstRepeat?_eq_none_iff.1 hr).1 hn
  | some p =>
    obtain ⟨before, after, hitems, hbefore, -, hp⟩ := exists_of_firstRepeat?_eq_some hr
    rw [siteIds_eq_map, List.map_eq_append_iff] at hitems
    obtain ⟨sites, rest, hsites, rfl, hrest⟩ := hitems
    obtain ⟨⟨file, site⟩, after, rfl, rfl, rfl⟩ := List.map_eq_cons_iff.1 hrest
    rw [List.map_map] at hbefore hp
    refine ⟨sites, file, site, after, hsites, hbefore, ?_, rfl⟩
    exact hp.resolve_left List.not_mem_nil

/-- **Loading accepts exactly the consistent workspaces, and ids then find their call sites.**

A workspace is loaded if and only if no two classes have the same name, every constructor parameter has
the text of a type, and no two call sites have the same id.  If only ids repeat, the error names the
first call site whose id has occurred before, and the file that holds this site.

In the session of a loaded workspace the files share one stamp and are otherwise as they were.  The id
of a call site finds the call at that very site, in the context of its file, and any other id finds
nothing. -/
theorem load_spec (w : Workspace) (config : ResolveConfig) :
    ((∃ s, w.load config = .ok s) ↔
      (w.classes.map (·.fqn)).Nodup ∧ (∀ d ∈ w.classes, d.HasTypeTexts) ∧
        (w.callSites.map (·.2.id)).Nodup) ∧
    ((w.classes.map (·.fqn)).Nodup → (∀ d ∈ w.classes, d.HasTypeTexts) →
      ¬(w.callSites.map (·.2.id)).Nodup →
        ∃ before file site after, w.callSites = before ++ (file, site) :: after ∧
          (before.map (·.2.id)).Nodup ∧ site.id ∈ before.map (·.2.id) ∧
          w.load config = .error (.duplicateCallSite site.id (pathText file))) ∧
    ∀ s, w.load config = .ok s →
      s.files = w.files.map (fun file => { file with tracker := .shared }) ∧
      (∀ file ∈ s.files, s.stampOf file = s.stamp) ∧
      (∀ file ∈ w.files, ∀ site ∈ file.callSites,
        s.call site.id = .ok ⟨site.expr, file.context site⟩) ∧
      ∀ id ∉ w.callSites.map (·.2.id), s.call id = .error (.unknownCallSite id) := by
  refine ⟨?_, fun hnames htypes hn => ?_, fun s hs => ?_⟩
  · rw [← and_assoc, ← ClassIndex.exists_ofDecls_eq_ok, ← map_fst_siteIds]
    simp only [load_eq_ok]
    constructor
    · rintro ⟨s, index, hindex, hn, -⟩
      exact ⟨⟨index, hindex⟩, hn⟩
    · rintro ⟨⟨index, hindex⟩, hn⟩
      exact ⟨w.session index config, index, hindex, hn, rfl⟩
  · obtain ⟨index, hindex⟩ := ClassIndex.exists_ofDecls_eq_ok.2 ⟨hnames, htypes⟩
    obtain ⟨before, file, site, after, hsites, hbefore, hid, hrepeat⟩ :=
      exists_firstRepeat?_of_not_nodup hn
    refine ⟨before, file, site, after, hsites, hbefore, hid, ?_⟩
    simp only [load, hindex, hrepeat]
  · obtain ⟨index, -, hn, rfl⟩ := load_eq_ok.1 hs
    have hids : (w.session index config).siteIds = w.callSites.map (·.2.id) := by
      rw [Session.siteIds_session, map_fst_siteIds]
    refine ⟨rfl, ?_, ?_, ?_⟩
    · intro file hfile
      obtain ⟨original, -, rfl⟩ := List.mem_map.1 hfile
      rfl
    · intro file hfile site hsite
      have hnodup : (w.session index config).siteIds.Nodup := by rwa [Session.siteIds_session]
      have hm : ({ file with tracker := .shared }, site) ∈ (w.session index config).callSites :=
        Session.mem_callSites.2 ⟨List.mem_map_of_mem hfile, hsite⟩
      have hcall := Session.call_id hnodup hm
      exact hcall
    · intro id hid
      exact Session.call_of_not_mem (hids ▸ hid)

/-- Two files, each with one call site of the given id. -/
def twoFiles (first second : CallSiteId) : Workspace where
  classes := [{ fqn := "a.Foo" },
    { fqn := "a.Bar", constructors := [{ parameters := [{ name := "x", type := "int" }] }] }]
  files := [
    { path := some "A.groovy", callSites := [{ expr := .ofReference first ⟨"Foo", []⟩ }] },
    { path := some "B.groovy", package := some "a",
      callSites := [{ expr := .ofReference second ⟨"Bar", []⟩ }] }]

/-- With distinct ids the second id finds the call of the second file; with one id twice the second file
is blamed. -/
theorem load_spec_twoFiles :
    (∃ s, (twoFiles 1 2).load {} = .ok s ∧
      s.call 2 = .ok ⟨.ofReference 2 ⟨"Bar", []⟩, { package := some "a" }⟩ ∧
      s.call 3 = .error (.unknownCallSite 3)) ∧
    (twoFiles 1 1).load {} = .error (.duplicateCallSite 1 "B.groovy") := by
  have hnames (first second : CallSiteId) : ((twoFiles first second).classes.map (·.fqn)).Nodup := by
    simp [twoFiles]
  have htypes (first second : CallSiteId) :
      ∀ d ∈ (twoFiles first second).classes, d.HasTypeTexts := by
    have hint : ∃ t, TypeRef.ofText "int" = .ok t := ⟨.raw "int", by decide +kernel⟩
    simp [twoFiles, ClassDecl.HasTypeTexts, hint]
  constructor
  · obtain ⟨hload, -, hsession⟩ := load_spec (twoFiles 1 2) {}
    obtain ⟨s, hs⟩ := hload.2 ⟨hnames 1 2, htypes 1 2, by decide⟩
    obtain ⟨-, -, hcall, hunknown⟩ := hsession s hs
    exact ⟨s, hs, hcall _ (List.mem_cons_of_mem _ List.mem_cons_self) _ List.mem_cons_self,
      hunknown 3 (by decide)⟩
  · obtain ⟨before, file, site, after, hsites, -, hid, hload⟩ :=
      (load_spec (twoFiles 1 1) {}).2.1 (hnames 1 1) (htypes 1 1) (by decide)
    -- There are two call sites, and the one that repeats an id has another before it.
    rcases before with _ | ⟨p, _ | ⟨q, before⟩⟩
    · cases hid
    · obtain ⟨-, hsecond⟩ := List.cons.inj hsites
      obtain ⟨rfl, rfl⟩ := Prod.mk.inj (List.cons.inj hsecond).1
      exact hload
    · have hlength := congrArg List.length hsites
      simp [callSites, twoFiles] at hlength

end Workspace
end GroovyNew
