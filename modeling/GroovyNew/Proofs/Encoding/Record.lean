/-
# Records are read back

A record is written as an object with a member for each of its names.  Read back, the object is well
formed because the names are distinct (`Json.Record.members?_record`), and the value of a member is the
one that was written under its name (`Json.Record.get?_fields`).  So a reader of records can be checked
member by member.
-/

import GroovyNew.Json.Record
import Mathlib.Data.List.Nodup

namespace GroovyNew
namespace Json

/-! ### Members -/

/-- The members of an object with the given names and values. -/
def fields (members : List (String × Json)) : Members := members.map fun m => (some m.1, m.2)

theorem record_eq_obj (members : List (String × Json)) :
    record members = .obj (fields members) := rfl

theorem fields_nil : fields [] = [] := rfl

theorem fields_cons (name : String) (v : Json) (members : List (String × Json)) :
    fields ((name, v) :: members) = (some name, v) :: fields members := rfl

namespace Record

theorem values_fields (members : List (String × Json)) (key : String) :
    values (fields members) key = (members.filter fun m => m.1 == key).map (·.2) := by
  have hkey : ((fun m : Option String × Json => m.1 == some key) ∘ fun m : String × Json =>
      (some m.1, m.2)) = fun m => m.1 == key := by
    funext m
    simp
  rw [values, fields, List.filter_map, hkey, List.map_map]
  rfl

/-- The value of a member is the first one written under its name. -/
@[simp] theorem get?_fields (members : List (String × Json)) (key : String) :
    get? (fields members) key = members.lookup key := by
  rw [get?, values_fields]
  induction members with
  | nil => rfl
  | cons m members ih =>
    obtain ⟨name, v⟩ := m
    by_cases hname : name = key
    · simp [hname]
    · have hkey : (key == name) = false := beq_false_of_ne (Ne.symm hname)
      simpa [hname, hkey, List.lookup_cons] using ih

theorem length_values_le_one {members : List (String × Json)} (hn : (members.map (·.1)).Nodup)
    (key : String) : (values (fields members) key).length ≤ 1 := by
  have hcount : (members.map (·.1)).count key ≤ 1 := List.nodup_iff_count_le_one.1 hn key
  rw [List.count, List.countP_map] at hcount
  rw [values_fields, List.length_map, ← List.countP_eq_length_filter]
  exact hcount

/-- **An object with distinct names is a record.** -/
theorem wellFormed_fields {members : List (String × Json)} (hn : (members.map (·.1)).Nodup)
    (known : List String) : wellFormed known (fields members) = true := by
  rw [wellFormed, Bool.and_eq_true, List.all_eq_true, List.all_eq_true]
  constructor
  · intro m hm
    obtain ⟨original, -, rfl⟩ := List.mem_map.1 hm
    rfl
  · intro key _
    exact decide_eq_true (length_values_le_one hn key)

theorem members?_record {members : List (String × Json)} (hn : (members.map (·.1)).Nodup)
    (least : Nat) (known : List String) :
    members? least known (.record members) = some (fields members) := by
  rw [record_eq_obj, members?, if_pos (wellFormed_fields hn known)]

@[simp] theorem required_fields {α : Type} (members : List (String × Json)) (key : String)
    (decode : Json → Option α) :
    required (fields members) key decode = (members.lookup key).bind decode := by
  rw [required, get?_fields]
  rfl

/-- A value with a default is the default, or has been decoded. -/
theorem eq_or_exists_of_defaulted {α : Type} {ms : Members} {key : String} {default a : α}
    {decode : Json → Option α} (h : defaulted ms key default decode = some a) :
    a = default ∨ ∃ v, decode v = some a := by
  rw [defaulted] at h
  split at h
  · exact .inl (Option.some.inj h).symm
  · exact .inr ⟨_, h⟩

@[simp] theorem defaulted_fields {α : Type} (members : List (String × Json)) (key : String)
    (default : α) (decode : Json → Option α) :
    defaulted (fields members) key default decode =
      (members.lookup key).elim (some default) decode := by
  rw [defaulted, get?_fields]
  cases members.lookup key <;> rfl

@[simp] theorem maybe_fields {α : Type} (members : List (String × Json)) (key : String)
    (decode : Json → Option α) :
    maybe (fields members) key decode = (members.lookup key).elim (some none) (maybe? decode) :=
  defaulted_fields members key none (maybe? decode)

end Record

/-! ### Values -/

/-- Decoding undoes encoding for a list if it does for each item. -/
theorem mapM_map_eq_some {α β : Type} {encode : α → β} {decode : β → Option α} {items : List α}
    (h : ∀ a ∈ items, decode (encode a) = some a) : (items.map encode).mapM decode = some items := by
  induction items with
  | nil => rfl
  | cons a items ih =>
    obtain ⟨ha, hitems⟩ := List.forall_mem_cons.1 h
    rw [List.map_cons, List.mapM_cons, ha, ih hitems]
    rfl

/-- What is decoded comes from one of the items. -/
theorem exists_of_mem_mapM_eq_some {α β : Type} {decode : α → Option β} {items : List α}
    {results : List β} (h : items.mapM decode = some results) :
    ∀ b ∈ results, ∃ a ∈ items, decode a = some b := by
  induction items generalizing results with
  | nil =>
    obtain rfl := Option.some.inj h
    exact fun _ hb => absurd hb List.not_mem_nil
  | cons a items ih =>
    rw [List.mapM_cons] at h
    obtain ⟨b, hb, h⟩ := Option.bind_eq_some_iff.1 h
    obtain ⟨bs, hbs, h⟩ := Option.bind_eq_some_iff.1 h
    obtain rfl := Option.some.inj h
    refine List.forall_mem_cons.2 ⟨⟨a, List.mem_cons_self, hb⟩, fun b' hb' => ?_⟩
    obtain ⟨a', ha', hab⟩ := ih hbs b' hb'
    exact ⟨a', List.mem_cons_of_mem a ha', hab⟩

/-- An array is read back if its items are. -/
theorem list?_arr_map {α : Type} {encode : α → Json} {decode : Json → Option α} {items : List α}
    (h : ∀ a ∈ items, decode (encode a) = some a) :
    list? decode (.arr (items.map encode)) = some items :=
  mapM_map_eq_some h

@[simp] theorem strings?_texts (items : List String) : strings? (texts items) = some items :=
  list?_arr_map fun _ _ => rfl

@[simp] theorem maybe?_optional_text (o : Option String) :
    maybe? string? (optional text o) = some o := by
  cases o <;> rfl

theorem natBelow?_nat {bits n : Nat} (h : n < Nat.pow 2 bits) :
    natBelow? bits (nat n) = some n := by
  have hn : (decide (0 ≤ (n : Int)) && decide ((n : Int) < (Nat.pow 2 bits : Nat))) = true :=
    Bool.and_eq_true_iff.2
      ⟨decide_eq_true (Int.natCast_nonneg n), decide_eq_true (Int.ofNat_lt.2 h)⟩
  rw [natBelow?, nat, int?, Option.bind_eq_bind, Option.bind_some, if_pos hn, Int.toNat_natCast]

theorem lt_of_natBelow?_eq_some {bits n : Nat} {v : Json} (h : natBelow? bits v = some n) :
    n < Nat.pow 2 bits := by
  cases v with
  | int i =>
    simp only [natBelow?, int?, Option.bind_eq_bind, Option.bind_some] at h
    split at h
    · rename_i hi
      obtain rfl := Option.some.inj h
      simp only [Bool.and_eq_true, decide_eq_true_eq] at hi
      omega
    · cases h
  | _ => cases h

end Json
end GroovyNew
