/-
# Types are read back from JSON

A type that has been read from JSON, from whatever form, is read again from the object that it is written
as (`TypeRef.restores_of_read`).  Not every type is: the dimensions of an array that is written must fit
64 bits.  Reading sees to that, and every other part of a type can be written.

What is written puts the kind before the data, so nothing of it is ever held (`TypeRef.read_tagged`).
-/

import GroovyNew.Proofs.Encoding.Record
import GroovyNew.Proofs.TypeRef.Bindings
import GroovyNew.TypeRef.Json

namespace GroovyNew
namespace TypeRef

/-- Reading what the type is written as gives back the type. -/
def Restores (t : TypeRef) : Prop := read false t.toJson = some t

section Written

attribute [local simp] Json.record_eq_obj Json.fields_cons Json.fields_nil

/-! ### Written types -/

/-- A written type is read by its kind. -/
theorem read_tagged (kind : String) (data : Json) :
    read false (tagged kind data) = readData false kind data := by
  have hwf : Json.Record.wellFormed ["kind", "data"] (Json.fields [("kind", .text kind), ("data", data)])
      = true := Json.Record.wellFormed_fields (by simp) _
  rw [tagged, Json.record_eq_obj, read, if_pos hwf, Json.Record.required_fields, Json.Record.get?_fields]
  simp [List.lookup_cons, kindName?, Json.bareVariant?, Json.variant?, Json.isUnit, isDataFirst,
    readDataMember]

theorem restores_raw (name : String) : Restores (.raw name) := by
  rw [Restores, toJson, read_tagged, readData]

theorem restores_id (name : String) : Restores (.id name) := by
  rw [Restores, toJson, read_tagged, readData]

theorem restores_unknown : Restores .unknown := by
  rw [Restores, toJson]
  rfl

theorem readList_listToJson {ts : List TypeRef} (h : ∀ t ∈ ts, t.Restores) :
    readList false (listToJson ts) = some ts := by
  induction ts with
  | nil => rfl
  | cons t ts ih =>
    obtain ⟨ht, hts⟩ := List.forall_mem_cons.1 h
    rw [listToJson, readList, ih hts, ht]

theorem readEntries_entriesToJson {es : List (String × TypeRef)} (h : ∀ e ∈ es, e.2.Restores) :
    readEntries false (entriesToJson es) = some es := by
  induction es with
  | nil => rfl
  | cons e es ih =>
    obtain ⟨label, t⟩ := e
    obtain ⟨ht, hes⟩ := List.forall_mem_cons.1 h
    have ht' : read false t.toJson = some t := ht
    rw [entriesToJson, readEntries, ih hes, ht']

theorem restores_generic {base : TypeRef} {args : List TypeRef} (hbase : base.Restores)
    (hargs : ∀ t ∈ args, t.Restores) : Restores (.generic base args) := by
  have hbase' : read false base.toJson = some base := hbase
  rw [Restores, toJson, read_tagged]
  simp [readData, readGeneric, hbase', readList_listToJson hargs]

theorem restores_array {element : TypeRef} {dimensions : Nat} (helement : element.Restores)
    (hd : dimensions < Nat.pow 2 64) : Restores (.array element dimensions) := by
  have helement' : read false element.toJson = some element := helement
  rw [Restores, toJson, read_tagged]
  simp [readData, readArray, helement', Json.natBelow?_nat hd]

/-- A type is written as an object. -/
theorem exists_toJson_eq_obj (t : TypeRef) : ∃ ms, t.toJson = .obj ms := by
  cases t with
  | wildcard bound isUpper => cases bound <;> exact ⟨_, by rw [toJson]; rfl⟩
  | _ => exact ⟨_, by rw [toJson]; rfl⟩

theorem restores_wildcard {bound : Option TypeRef} (hbound : ∀ t ∈ bound, t.Restores)
    (isUpper : Bool) : Restores (.wildcard bound isUpper) := by
  cases bound with
  | none =>
    rw [Restores, toJson, read_tagged]
    rfl
  | some t =>
    have ht : read false t.toJson = some t := hbound t rfl
    obtain ⟨ms, hms⟩ := t.exists_toJson_eq_obj
    rw [Restores, toJson, read_tagged]
    rw [hms] at ht ⊢
    simp [readData, readWildcard, ht, Json.bool?]

theorem restores_map {entries : List (String × TypeRef)} (h : ∀ e ∈ entries, e.2.Restores) :
    Restores (.map entries) := by
  rw [Restores, toJson, read_tagged]
  simp [readData, readMap, readEntries_entriesToJson h]

end Written

/-! ### Types that have been read -/

mutual

/-- **A type that has been read is read back from what it is written as.** -/
theorem restores_of_read {held : Bool} {t : TypeRef} (v : Json) (h : read held v = some t) :
    t.Restores := by
  unfold read at h
  split at h
  · rename_i ms
    split at h
    · split at h
      · cases h
      · split at h
        · split at h
          · obtain rfl := Option.some.inj h
            exact restores_unknown
          · cases h
        · exact restores_of_readDataMember ms h
    · cases h
  · rename_i kind data
    split at h
    · cases h
    · exact restores_of_readData data h
  · cases h
termination_by sizeOf v

theorem restores_of_readDataMember {held : Bool} {kind : String} {t : TypeRef} (ms : Json.Members)
    (h : readDataMember held kind ms = some t) : t.Restores := by
  unfold readDataMember at h
  split at h
  · cases h
  · rename_i key v ms
    split at h
    · split at h
      · cases h
      · exact restores_of_readData v h
    · exact restores_of_readDataMember ms h
termination_by sizeOf ms

theorem restores_of_readData {held : Bool} {kind : String} {t : TypeRef} (v : Json)
    (h : readData held kind v = some t) : t.Restores := by
  unfold readData at h
  split at h
  · split at h
    · obtain rfl := Option.some.inj h
      exact restores_raw _
    · obtain rfl := Option.some.inj h
      exact restores_id _
    · cases h
  · split at h
    · obtain rfl := Option.some.inj h
      exact restores_unknown
    · cases h
  · rename_i ms
    split at h
    · exact restores_of_readGeneric ms h (by simp) (by simp)
    · exact restores_of_readArray ms h (by simp) (by simp)
    · exact restores_of_readWildcard ms h (by simp)
    · exact restores_of_readMap ms h (by simp)
    · cases h
  · cases h
termination_by sizeOf v

theorem restores_of_readGeneric {held : Bool} {data : GenericData} {t : TypeRef} (ms : Json.Members)
    (h : readGeneric held data ms = some t) (hbase : ∀ base ∈ data.base, base.Restores)
    (hargs : ∀ args ∈ data.args, ∀ a ∈ args, a.Restores) : t.Restores := by
  unfold readGeneric at h
  split at h
  · split at h
    · obtain rfl := Option.some.inj h
      exact restores_generic (hbase _ rfl) (hargs _ rfl)
    · cases h
  · cases h
  · rename_i v ms
    split at h
    · rename_i base hread
      exact restores_of_readGeneric ms h (by simpa using restores_of_read v hread) hargs
    · cases h
  · rename_i items ms
    split at h
    · rename_i args hread
      exact restores_of_readGeneric ms h hbase (by simpa using restores_of_readList items hread)
    · cases h
  · split at h
    · cases h
    · exact restores_of_readGeneric _ h hbase hargs
termination_by sizeOf ms

theorem restores_of_readArray {held : Bool} {data : ArrayData} {t : TypeRef} (ms : Json.Members)
    (h : readArray held data ms = some t) (helement : ∀ element ∈ data.element, element.Restores)
    (hdimensions : ∀ n ∈ data.dimensions, n < Nat.pow 2 64) : t.Restores := by
  unfold readArray at h
  split at h
  · split at h
    · obtain rfl := Option.some.inj h
      exact restores_array (helement _ rfl) (hdimensions _ rfl)
    · cases h
  · cases h
  · rename_i v ms
    split at h
    · rename_i element hread
      exact restores_of_readArray ms h (by simpa using restores_of_read v hread) hdimensions
    · cases h
  · rename_i v ms
    split at h
    · rename_i n _ hread
      have hn : n < Nat.pow 2 64 := Json.lt_of_natBelow?_eq_some hread
      exact restores_of_readArray ms h helement (by simpa using hn)
    · cases h
  · exact restores_of_readArray _ h helement hdimensions
termination_by sizeOf ms

theorem restores_of_readWildcard {held : Bool} {data : WildcardData} {t : TypeRef} (ms : Json.Members)
    (h : readWildcard held data ms = some t)
    (hbound : ∀ bound ∈ data.bound, ∀ b ∈ bound, b.Restores) : t.Restores := by
  unfold readWildcard at h
  split at h
  · split at h
    · rename_i bound isUpper
      obtain rfl := Option.some.inj h
      refine restores_wildcard (fun b hb => ?_) isUpper
      cases bound with
      | none => cases hb
      | some bound => exact hbound bound rfl b hb
    · cases h
  · cases h
  · split at h
    · exact restores_of_readWildcard _ h (by simp)
    · cases h
  · rename_i v ms _
    split at h
    · rename_i bound _ hread
      exact restores_of_readWildcard ms h (by simpa using restores_of_read v hread)
    · cases h
  · split at h
    · exact restores_of_readWildcard _ h hbound
    · cases h
  · exact restores_of_readWildcard _ h hbound
termination_by sizeOf ms

theorem restores_of_readMap {held : Bool} {entries : Option (List (String × TypeRef))} {t : TypeRef}
    (ms : Json.Members) (h : readMap held entries ms = some t)
    (hentries : ∀ es ∈ entries, ∀ e ∈ es, e.2.Restores) : t.Restores := by
  unfold readMap at h
  split at h
  · obtain ⟨es, rfl, rfl⟩ := Option.map_eq_some_iff.1 h
    exact restores_map (hentries es rfl)
  · cases h
  · rename_i items ms
    split at h
    · rename_i es _ hread
      have hes := restores_of_readEntries items hread
      exact restores_of_readMap ms h fun es' he => by
        obtain rfl := Option.some.inj he
        exact hes
    · cases h
  · split at h
    · cases h
    · exact restores_of_readMap _ h hentries
termination_by sizeOf ms

theorem restores_of_readList {held : Bool} {ts : List TypeRef} (vs : List Json)
    (h : readList held vs = some ts) : ∀ t ∈ ts, t.Restores := by
  unfold readList at h
  split at h
  · obtain rfl := Option.some.inj h
    exact fun _ ht => absurd ht List.not_mem_nil
  · rename_i v vs
    split at h
    · rename_i hv hvs
      obtain rfl := Option.some.inj h
      exact List.forall_mem_cons.2 ⟨restores_of_read v hv, restores_of_readList vs hvs⟩
    · cases h
termination_by sizeOf vs

theorem restores_of_readEntries {held : Bool} {es : List (String × TypeRef)} (vs : List Json)
    (h : readEntries held vs = some es) : ∀ e ∈ es, e.2.Restores := by
  unfold readEntries at h
  split at h
  · obtain rfl := Option.some.inj h
    exact fun _ he => absurd he List.not_mem_nil
  · rename_i label v vs
    split at h
    · rename_i hv hvs
      obtain rfl := Option.some.inj h
      exact List.forall_mem_cons.2 ⟨restores_of_read v hv, restores_of_readEntries vs hvs⟩
    · cases h
  · cases h
termination_by sizeOf vs

end

end TypeRef

namespace Bindings

/-- Reading what the bindings are written as gives back the bindings. -/
def Restores (s : Bindings) : Prop := ofJson? s.toJson = some s

/-- No name is bound twice, and each type is read back. -/
structure IsTable (s : Bindings) : Prop where
  nodup : (s.entries.map (·.1)).Nodup
  restores : ∀ e ∈ s.entries, e.2.Restores

/-- Binding a bound name keeps the names. -/
theorem map_fst_insertEntry_of_mem {name : String} (t : TypeRef) {es : List (String × TypeRef)}
    (h : name ∈ es.map (·.1)) : (insertEntry name t es).map (·.1) = es.map (·.1) := by
  induction es with
  | nil => cases h
  | cons e es ih =>
    obtain ⟨n, u⟩ := e
    rw [insertEntry]
    split
    · rfl
    · rename_i hn
      have hes : name ∈ es.map (·.1) := (List.mem_cons.1 h).resolve_left fun he => hn he.symm
      rw [List.map_cons, List.map_cons, ih hes]

theorem mem_insertEntry {name : String} {t : TypeRef} {es : List (String × TypeRef)}
    {e : String × TypeRef} (h : e ∈ insertEntry name t es) : e.2 = t ∨ e ∈ es := by
  induction es with
  | nil =>
    obtain rfl := List.mem_singleton.1 h
    exact .inl rfl
  | cons e' es ih =>
    obtain ⟨n, u⟩ := e'
    rw [insertEntry] at h
    split at h
    · rcases List.mem_cons.1 h with rfl | h
      · exact .inl rfl
      · exact .inr (List.mem_cons_of_mem _ h)
    · rcases List.mem_cons.1 h with rfl | h
      · exact .inr List.mem_cons_self
      · exact (ih h).imp_right (List.mem_cons_of_mem _)

theorem IsTable.insert {s : Bindings} (h : s.IsTable) (name : String) {t : TypeRef}
    (ht : t.Restores) : (s.insert name t).IsTable where
  nodup := by
    by_cases hname : name ∈ s.entries.map (·.1)
    · rw [Bindings.insert, map_fst_insertEntry_of_mem t hname]
      exact h.nodup
    · rw [Bindings.insert, insertEntry_of_not_mem t hname, List.map_append]
      exact h.nodup.append (List.nodup_singleton name) (by simpa using hname)
  restores e he := by
    rcases mem_insertEntry he with he | he
    · rwa [he]
    · exact h.restores e he

/-- Bindings made one after the other are a table. -/
theorem IsTable.insertAll {s : Bindings} (h : s.IsTable) {es : List (String × TypeRef)}
    (hes : ∀ e ∈ es, e.2.Restores) : (s.insertAll es).IsTable := by
  induction es generalizing s with
  | nil => exact h
  | cons e es ih =>
    obtain ⟨he, hes⟩ := List.forall_mem_cons.1 hes
    exact ih (h.insert e.1 he) hes

/-- A table is read back: its names are new one after the other. -/
theorem IsTable.restores_toJson {s : Bindings} (h : s.IsTable) : s.Restores := by
  have hmembers : (s.toJson.members?) = some (s.entries.map fun e => (some e.1, e.2.toJson)) := by
    rw [toJson, Json.record_eq_obj, Json.fields, List.map_map]
    rfl
  have hentries : ((s.entries.map fun e => (some e.1, e.2.toJson)).mapM fun m : Option String × Json =>
      do return (← m.1, ← TypeRef.ofJson? m.2)) = some s.entries := by
    refine Json.mapM_map_eq_some fun e he => ?_
    have ht : TypeRef.ofJson? e.2.toJson = some e.2 := h.restores e he
    rw [ht]
    rfl
  have hn : ((empty.entries ++ s.entries).map (·.1)).Nodup := h.nodup
  rw [Restores, ofJson?, hmembers, Option.bind_eq_bind, Option.bind_some, hentries]
  exact congrArg some (insertAll_of_nodup hn)

/-- **Bindings that have been read are read back from what they are written as.** -/
theorem restores_of_ofJson? {v : Json} {s : Bindings} (h : ofJson? v = some s) : s.Restores := by
  obtain ⟨ms, -, h⟩ := Option.bind_eq_some_iff.1 h
  obtain ⟨es, hes, h⟩ := Option.bind_eq_some_iff.1 h
  obtain rfl := Option.some.inj h
  have hempty : empty.IsTable := ⟨List.nodup_nil, fun _ he => absurd he List.not_mem_nil⟩
  refine (hempty.insertAll fun e he => ?_).restores_toJson
  obtain ⟨m, -, hm⟩ := Json.exists_of_mem_mapM_eq_some hes e he
  obtain ⟨name, -, hm⟩ := Option.bind_eq_some_iff.1 hm
  obtain ⟨t, ht, hm⟩ := Option.bind_eq_some_iff.1 hm
  obtain rfl := Option.some.inj hm
  exact TypeRef.restores_of_read m.2 ht

end Bindings
end GroovyNew
