/-
TenantRegistry/OrderedMap.lean

Finite maps keyed by text.

Everything the registry keeps is keyed by text and listed in key order: the
rows of a table, the entries of the index, the labels of a record.  A map is
the list of its entries in ascending key order, and the order is part of the
type, so two maps with the same contents are equal.

Keys are compared character by character on code points, which is also the
order of their UTF-8 bytes.

* `get?`, `contains` read one entry;
* `insert` writes an entry, over an older one with the same key;
* `erase` drops the entry of a key;
* `entriesFrom` is the part of the map at or after a key, as an ordered
  store hands it to a scan.

Main results: reading after writing (`get?_insert`, `get?_erase`), and two
maps that read alike are equal (`ext_get?`).
-/
namespace TenantRegistry

/-- A finite map from text, listed in ascending key order. -/
structure OrderedMap (α : Type) where
  /-- The entries, in ascending key order. -/
  toList : List (String × α)
  /-- Each key is below every later one. -/
  ascending : toList.Pairwise (fun a b => a.1 < b.1)

namespace OrderedMap

variable {α : Type}

/-! ### Operations on the entries -/

/-- Write an entry at its place in an ascending list. -/
def insertEntry (key : String) (value : α) : List (String × α) → List (String × α)
  | [] => [(key, value)]
  | (k, v) :: rest =>
    if key < k then (key, value) :: (k, v) :: rest
    else if key = k then (key, value) :: rest
    else (k, v) :: insertEntry key value rest

/-- A key of the list after a write is the written one or was there before. -/
theorem mem_insertEntry {key : String} {value : α} {entries : List (String × α)}
    {entry : String × α} (h : entry ∈ insertEntry key value entries) :
    entry = (key, value) ∨ entry ∈ entries := by
  induction entries with
  | nil => exact Or.inl (by simpa [insertEntry] using h)
  | cons head rest ih =>
    obtain ⟨k, v⟩ := head
    simp only [insertEntry] at h
    split at h
    · simpa using h
    · split at h
      · rcases List.mem_cons.mp h with h | h
        · exact Or.inl h
        · exact Or.inr (List.mem_cons_of_mem _ h)
      · rcases List.mem_cons.mp h with h | h
        · exact Or.inr (h ▸ List.mem_cons_self)
        · rcases ih h with h | h
          · exact Or.inl h
          · exact Or.inr (List.mem_cons_of_mem _ h)

/-- Of two distinct keys one is below the other. -/
theorem lt_of_not_lt_of_ne {a b : String} (h : ¬a < b) (hne : a ≠ b) : b < a :=
  String.not_le.mp fun hle => hne (String.le_antisymm hle (String.not_lt.mp h))

/-- Writing an entry keeps the order. -/
theorem pairwise_insertEntry (key : String) (value : α) {entries : List (String × α)}
    (h : entries.Pairwise (fun a b => a.1 < b.1)) :
    (insertEntry key value entries).Pairwise (fun a b => a.1 < b.1) := by
  induction entries with
  | nil => simp [insertEntry]
  | cons head rest ih =>
    obtain ⟨k, v⟩ := head
    obtain ⟨hhead, hrest⟩ := List.pairwise_cons.mp h
    simp only [insertEntry]
    split
    · rename_i hlt
      refine List.pairwise_cons.mpr ⟨?_, h⟩
      intro entry hmem
      rcases List.mem_cons.mp hmem with heq | hmem
      · exact heq ▸ hlt
      · exact String.lt_trans hlt (hhead entry hmem)
    · rename_i hlt
      split
      · rename_i heq
        exact List.pairwise_cons.mpr ⟨fun entry hmem => heq ▸ hhead entry hmem, hrest⟩
      · rename_i hne
        refine List.pairwise_cons.mpr ⟨?_, ih hrest⟩
        intro entry hmem
        rcases mem_insertEntry hmem with heq | hmem
        · exact heq ▸ lt_of_not_lt_of_ne hlt hne
        · exact hhead entry hmem

/-! ### The map -/

/-- The map without entries. -/
def empty : OrderedMap α := ⟨[], List.Pairwise.nil⟩

instance : EmptyCollection (OrderedMap α) := ⟨empty⟩

instance : Inhabited (OrderedMap α) := ⟨empty⟩

instance [DecidableEq α] : DecidableEq (OrderedMap α) := fun a b =>
  decidable_of_iff (a.toList = b.toList) (by cases a; cases b; simp)

/-- The value under a key. -/
def get? (map : OrderedMap α) (key : String) : Option α := map.toList.lookup key

/-- Whether a key has a value. -/
def contains (map : OrderedMap α) (key : String) : Bool := (map.get? key).isSome

/-- The map with one more entry, or with the entry of that key replaced. -/
def insert (map : OrderedMap α) (key : String) (value : α) : OrderedMap α :=
  ⟨insertEntry key value map.toList, pairwise_insertEntry key value map.ascending⟩

/-- The map without the entry of a key. -/
def erase (map : OrderedMap α) (key : String) : OrderedMap α :=
  ⟨map.toList.filter (fun entry => entry.1 ≠ key), map.ascending.filter _⟩

/-- The keys, ascending. -/
def keys (map : OrderedMap α) : List String := map.toList.map (·.1)

/-- The values, in key order. -/
def values (map : OrderedMap α) : List α := map.toList.map (·.2)

/-- The entries whose key is not below `key`, ascending. -/
def entriesFrom (map : OrderedMap α) (key : String) : List (String × α) :=
  map.toList.dropWhile (fun entry => entry.1 < key)

/-- The map that holds the given entries; of two with one key the later wins. -/
def ofList (entries : List (String × α)) : OrderedMap α :=
  entries.foldl (fun map entry => map.insert entry.1 entry.2) empty

/-! ### Reading after writing -/

@[simp] theorem get?_empty (key : String) : (empty : OrderedMap α).get? key = none := rfl

/-- Looking up in a list with a first entry. -/
theorem lookup_cons (k key : String) (value : α) (rest : List (String × α)) :
    ((key, value) :: rest).lookup k = if k = key then some value else rest.lookup k := by
  by_cases h : k = key
  · simp [h]
  · simp [List.lookup_cons, h, beq_false_of_ne h]

theorem lookup_insertEntry (entries : List (String × α)) (key k : String) (value : α) :
    (insertEntry key value entries).lookup k =
      if k = key then some value else entries.lookup k := by
  induction entries with
  | nil => simp [insertEntry, lookup_cons]
  | cons head rest ih =>
    obtain ⟨k', v⟩ := head
    simp only [insertEntry]
    split
    · rw [lookup_cons]
    · split
      · rename_i heq
        subst heq
        by_cases h : k = key <;> simp [lookup_cons, h]
      · rename_i hne
        by_cases h : k = k'
        · simp [h, Ne.symm hne]
        · simp [lookup_cons, h, ih]

/-- **A write is read back under its key and nowhere else.** -/
theorem get?_insert (map : OrderedMap α) (key k : String) (value : α) :
    (map.insert key value).get? k = if k = key then some value else map.get? k :=
  lookup_insertEntry map.toList key k value

theorem lookup_filter_ne (entries : List (String × α)) (key k : String) :
    (entries.filter (fun entry => entry.1 ≠ key)).lookup k =
      if k = key then none else entries.lookup k := by
  induction entries with
  | nil => simp
  | cons head rest ih =>
    obtain ⟨k', v⟩ := head
    by_cases hk : k' = key
    · rw [List.filter_cons_of_neg (by simp [hk]), ih, lookup_cons]
      by_cases h : k = key
      · simp [h]
      · simp [h, hk]
    · rw [List.filter_cons_of_pos (by simp [hk]), lookup_cons, lookup_cons, ih]
      by_cases h : k = k'
      · simp [h, hk]
      · simp [h]

/-- **An erased key reads as absent, every other key as before.** -/
theorem get?_erase (map : OrderedMap α) (key k : String) :
    (map.erase key).get? k = if k = key then none else map.get? k :=
  lookup_filter_ne map.toList key k

/-! ### Maps that read alike -/

theorem lookup_eq_none_of_forall_lt {entries : List (String × α)} {key : String}
    (h : ∀ entry ∈ entries, key < entry.1) : entries.lookup key = none := by
  induction entries with
  | nil => rfl
  | cons head rest ih =>
    obtain ⟨k, v⟩ := head
    have hlt : key < k := h (k, v) List.mem_cons_self
    have hne : key ≠ k := fun heq => String.lt_irrefl k (heq ▸ hlt)
    rw [lookup_cons, if_neg hne]
    exact ih fun entry hmem => h entry (List.mem_cons_of_mem _ hmem)

/-- Ascending lists that answer every look-up alike are the same list. -/
theorem eq_of_lookup_eq {xs ys : List (String × α)}
    (hxs : xs.Pairwise (fun a b => a.1 < b.1)) (hys : ys.Pairwise (fun a b => a.1 < b.1))
    (h : ∀ key, xs.lookup key = ys.lookup key) : xs = ys := by
  induction xs generalizing ys with
  | nil =>
    cases ys with
    | nil => rfl
    | cons head rest =>
      obtain ⟨k, v⟩ := head
      have hk := h k
      rw [lookup_cons, if_pos rfl] at hk
      cases hk
  | cons x xs ih =>
    obtain ⟨k, v⟩ := x
    obtain ⟨hx, hxs⟩ := List.pairwise_cons.mp hxs
    cases ys with
    | nil =>
      have hk := h k
      rw [lookup_cons, if_pos rfl] at hk
      cases hk
    | cons y ys =>
      obtain ⟨k', v'⟩ := y
      obtain ⟨hy, hytail⟩ := List.pairwise_cons.mp hys
      have hxs' := lookup_eq_none_of_forall_lt hx
      have hys' := lookup_eq_none_of_forall_lt hy
      have hkk : k = k' := by
        by_cases hlt : k < k'
        · have hbelow : ∀ entry ∈ (k', v') :: ys, k < entry.1 := by
            intro entry hmem
            rcases List.mem_cons.mp hmem with heq | hmem
            · exact heq ▸ hlt
            · exact String.lt_trans hlt (hy entry hmem)
          have hk := h k
          rw [lookup_eq_none_of_forall_lt hbelow, lookup_cons, if_pos rfl] at hk
          cases hk
        · by_cases heq : k = k'
          · exact heq
          · have hgt := lt_of_not_lt_of_ne hlt heq
            have habove : ∀ entry ∈ (k, v) :: xs, k' < entry.1 := by
              intro entry hmem
              rcases List.mem_cons.mp hmem with heq | hmem
              · exact heq ▸ hgt
              · exact String.lt_trans hgt (hx entry hmem)
            have hk := h k'
            rw [lookup_eq_none_of_forall_lt habove, lookup_cons, if_pos rfl] at hk
            cases hk
      subst hkk
      have hv := h k
      rw [lookup_cons, lookup_cons, if_pos rfl, if_pos rfl] at hv
      cases hv
      congr 1
      refine ih hxs hytail fun key => ?_
      by_cases hkey : key = k
      · rw [hkey, hxs', hys']
      · have := h key
        rwa [lookup_cons, lookup_cons, if_neg hkey, if_neg hkey] at this

/-- **Maps that read alike are equal.** -/
theorem ext_get? {a b : OrderedMap α} (h : ∀ key, a.get? key = b.get? key) : a = b := by
  have hlist := eq_of_lookup_eq a.ascending b.ascending h
  cases a
  cases b
  cases hlist
  rfl

end OrderedMap

/-- Free-form text under names, attached to most records. -/
abbrev Labels := OrderedMap String

end TenantRegistry
