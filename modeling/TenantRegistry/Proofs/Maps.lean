/-
TenantRegistry/Proofs/Maps.lean

What a map holds, beyond single reads.

`get?_insert`, `get?_erase` and `ext_get?` describe a map by what it answers.
Here this is tied to the list of entries, which a listing shows, and to
undoing: a write and the matching deletion cancel out, in both orders, and so
the undo of a write is an undo of all of it.

`OrderedMap.filterMap` reads every value of a map through a partial function.
Durable storage holds texts; the rows that they stand for are such a reading.
-/
import Mathlib.Data.List.Sort
import Mathlib.Data.String.Basic
import TenantRegistry.OrderedMap

namespace TenantRegistry

namespace OrderedMap

variable {α β : Type}

/-! ### Entries -/

/-- Looking up in an ascending list finds each of its entries. -/
theorem lookup_eq_some_iff {entries : List (String × α)}
    (h : entries.Pairwise (fun a b => a.1 < b.1)) {key : String} {value : α} :
    entries.lookup key = some value ↔ (key, value) ∈ entries := by
  induction entries with
  | nil => simp
  | cons head rest ih =>
    obtain ⟨k, v⟩ := head
    obtain ⟨hhead, hrest⟩ := List.pairwise_cons.mp h
    rw [lookup_cons, List.mem_cons, Prod.mk.injEq]
    by_cases hk : key = k
    · subst hk
      -- no later entry has this key, as all later keys are above it
      have hlater : (key, value) ∉ rest := fun hmem => String.lt_irrefl key (hhead _ hmem)
      simp [hlater, eq_comm]
    · simp [hk, ih hrest]

theorem get?_eq_some_iff {map : OrderedMap α} {key : String} {value : α} :
    map.get? key = some value ↔ (key, value) ∈ map.toList :=
  lookup_eq_some_iff map.ascending

theorem contains_iff {map : OrderedMap α} {key : String} :
    map.contains key = true ↔ ∃ value, map.get? key = some value :=
  Option.isSome_iff_exists

theorem contains_eq_false_iff {map : OrderedMap α} {key : String} :
    map.contains key = false ↔ map.get? key = none := by
  simp [contains]

@[simp] theorem contains_empty (key : String) : (empty : OrderedMap α).contains key = false := rfl

theorem contains_insert (map : OrderedMap α) (key k : String) (value : α) :
    (map.insert key value).contains k = (decide (k = key) || map.contains k) := by
  by_cases h : k = key <;> simp [contains, get?_insert, h]

theorem contains_erase (map : OrderedMap α) (key k : String) :
    (map.erase key).contains k = (decide (k ≠ key) && map.contains k) := by
  by_cases h : k = key <;> simp [contains, get?_erase, h]

/-- A key is listed if and only if it has a value. -/
theorem mem_keys_iff {map : OrderedMap α} {key : String} :
    key ∈ map.keys ↔ map.contains key = true := by
  simp only [keys, List.mem_map, contains_iff, get?_eq_some_iff, Prod.exists, exists_and_right,
    exists_eq_right]

theorem mem_values_iff {map : OrderedMap α} {value : α} :
    value ∈ map.values ↔ ∃ key, map.get? key = some value := by
  simp only [values, List.mem_map, get?_eq_some_iff, Prod.exists, exists_eq_right]

/-- What is read off each value occurs once, if values under different keys differ in it. -/
theorem nodup_map_values {map : OrderedMap α} {f : α → β}
    (h : ∀ ⦃key key' : String⦄ ⦃value value' : α⦄, map.get? key = some value →
      map.get? key' = some value' → f value = f value' → key = key') :
    (map.values.map f).Nodup := by
  rw [values, List.map_map, List.Nodup, List.pairwise_map]
  refine map.ascending.imp_of_mem fun {a b} ha hb hlt heq => ?_
  have hsame := h (get?_eq_some_iff.mpr ha) (get?_eq_some_iff.mpr hb) heq
  exact String.lt_irrefl _ (hsame ▸ hlt)

/-- The keys ascend. -/
theorem pairwise_keys (map : OrderedMap α) : map.keys.Pairwise (· < ·) :=
  List.pairwise_map.mpr map.ascending

/-- A scan of entries from a key on is a scan of keys. -/
theorem map_fst_entriesFrom (map : OrderedMap α) (key : String) :
    (map.entriesFrom key).map (·.1) = map.keys.dropWhile (· < key) := by
  rw [entriesFrom, keys, List.dropWhile_map]
  rfl

/-! ### Writes and deletions that cancel out -/

theorem erase_of_absent {map : OrderedMap α} {key : String} (h : map.get? key = none) :
    map.erase key = map := by
  refine ext_get? fun k => ?_
  rw [get?_erase]
  split
  · next hk => rw [hk, h]
  · rfl

theorem erase_insert_self (map : OrderedMap α) (key : String) (value : α) :
    (map.insert key value).erase key = map.erase key := by
  refine ext_get? fun k => ?_
  rw [get?_erase, get?_erase, get?_insert]
  split
  · rfl
  · rfl

theorem erase_insert {map : OrderedMap α} {key : String} (value : α) (h : map.get? key = none) :
    (map.insert key value).erase key = map := by
  rw [erase_insert_self, erase_of_absent h]

theorem insert_erase {map : OrderedMap α} {key : String} {value : α}
    (h : map.get? key = some value) : (map.erase key).insert key value = map := by
  refine ext_get? fun k => ?_
  rw [get?_insert, get?_erase]
  split
  · next hk => rw [hk, h]
  · rfl

/-! ### Maps from lists -/

/-- A write over ascending entries: the last entry of a key is its only one. -/
theorem get?_foldl_insert {entries : List (String × α)}
    (h : entries.Pairwise (fun a b => a.1 < b.1)) (map : OrderedMap α) (key : String) :
    (entries.foldl (fun map entry => map.insert entry.1 entry.2) map).get? key =
      (entries.lookup key).or (map.get? key) := by
  induction entries generalizing map with
  | nil => rfl
  | cons head rest ih =>
    obtain ⟨k, v⟩ := head
    obtain ⟨hhead, hrest⟩ := List.pairwise_cons.mp h
    rw [List.foldl_cons, ih hrest, get?_insert, lookup_cons]
    -- no later entry has the key of this one
    by_cases hk : key = k
    · rw [if_pos hk, if_pos hk, hk, lookup_eq_none_of_forall_lt hhead, Option.none_or,
        Option.some_or]
    · rw [if_neg hk, if_neg hk]

/-- A map is made of its entries. -/
theorem ofList_toList (map : OrderedMap α) : ofList map.toList = map := by
  refine ext_get? fun key => ?_
  rw [ofList, get?_foldl_insert map.ascending, get?_empty, Option.or_none]
  rfl

/-! ### Reading every value -/

/-- The values that `f` has an answer for, as it answers. -/
def filterMap (f : α → Option β) (map : OrderedMap α) : OrderedMap β where
  toList := map.toList.filterMap fun entry => (f entry.2).map (entry.1, ·)
  ascending := by
    refine map.ascending.filterMap _ ?_
    intro a b hab a' ha' b' hb'
    obtain ⟨_, -, rfl⟩ := Option.map_eq_some_iff.mp ha'
    obtain ⟨_, -, rfl⟩ := Option.map_eq_some_iff.mp hb'
    exact hab

theorem get?_filterMap (f : α → Option β) (map : OrderedMap α) (key : String) :
    (map.filterMap f).get? key = (map.get? key).bind f := by
  refine Option.ext fun value => ?_
  rw [get?_eq_some_iff, Option.bind_eq_some_iff]
  simp only [filterMap, List.mem_filterMap, Option.map_eq_some_iff, Prod.mk.injEq, Prod.exists,
    get?_eq_some_iff]
  constructor
  · rintro ⟨k, a, hmem, b, hb, rfl, rfl⟩
    exact ⟨a, hmem, hb⟩
  · rintro ⟨a, hmem, hb⟩
    exact ⟨key, a, hmem, value, hb, rfl, rfl⟩

theorem filterMap_insert {f : α → Option β} {value : α} {read : β} (h : f value = some read)
    (map : OrderedMap α) (key : String) :
    (map.insert key value).filterMap f = (map.filterMap f).insert key read := by
  refine ext_get? fun k => ?_
  rw [get?_filterMap, get?_insert, get?_insert, get?_filterMap]
  split
  · exact h
  · rfl

theorem filterMap_erase (f : α → Option β) (map : OrderedMap α) (key : String) :
    (map.erase key).filterMap f = (map.filterMap f).erase key := by
  refine ext_get? fun k => ?_
  rw [get?_filterMap, get?_erase, get?_erase, get?_filterMap]
  split
  · rfl
  · rfl

/-- The readings stand in the order of what was read. -/
theorem values_filterMap (f : α → Option β) (map : OrderedMap α) :
    (map.filterMap f).values = map.values.filterMap f := by
  simp only [values, filterMap, List.map_filterMap, List.filterMap_map]
  refine List.filterMap_congr fun entry _ => ?_
  simp [Option.map_map, Function.comp_def]

/-- A reading of every value is under the same keys. -/
theorem contains_filterMap {f : α → Option β} {map : OrderedMap α}
    (h : ∀ key value, map.get? key = some value → (f value).isSome = true) (key : String) :
    (map.filterMap f).contains key = map.contains key := by
  rw [contains, contains, get?_filterMap]
  rcases e : map.get? key with - | value
  · rfl
  · rw [Option.bind_some, h key value e, Option.isSome_some]

/-- Maps over the same keys list them alike. -/
theorem keys_eq_of_contains {a : OrderedMap α} {b : OrderedMap β}
    (h : ∀ key, a.contains key = b.contains key) : a.keys = b.keys := by
  refine List.Pairwise.eq_of_mem_iff a.pairwise_keys b.pairwise_keys fun key => ?_
  rw [mem_keys_iff, mem_keys_iff, h]

end OrderedMap

end TenantRegistry
