/-
TenantRegistry/Proofs/IndexKeys.lean

Keys of the index as texts.

A key is the organization, the kind and the child with `/` between them, with
nothing escaped.  Two questions decide whether that is sound.

* Can two children share a key?  Not if the parts of one key are `Plain`, that
  is, free of `/`: the key then has two separators, so the parts of any other
  triple with that key are plain as well, and the parts can be read off.  Both
  `entry_inj` and the stronger `eq_of_entry_eq` say so.
* Does a scan that starts at a stem and stops at the first key without it see
  every key with it?  Yes, because in ascending order the keys with one stem
  stand next to each other (`scan_eq_filterMap`), whatever the keys are.
-/
import Mathlib.Data.List.TakeWhile
import TenantRegistry.Storage.Call

namespace TenantRegistry

/-- A text without the separator of index keys. -/
def Plain (text : String) : Prop := '/' ∉ text.toList

instance (text : String) : Decidable (Plain text) :=
  inferInstanceAs (Decidable ('/' ∉ text.toList))

/-! ### Names of kinds -/

theorem ChildKind.plain_name (kind : ChildKind) : Plain kind.name := by
  cases kind <;> decide

theorem ChildKind.name_inj {kind kind' : ChildKind} (h : kind.name = kind'.name) : kind = kind' := by
  revert h
  cases kind <;> cases kind' <;> decide

namespace IndexKey

variable {o o' c c' : String} {kind kind' : ChildKind}

/-! ### Parts of a key -/

theorem toList_entry (o : String) (kind : ChildKind) (c : String) :
    (entry o kind c).toList = o.toList ++ '/' :: (kind.name.toList ++ '/' :: c.toList) := by
  simp [entry, stem]

/-- A text is split at its first separator in one way. -/
theorem eq_and_eq_of_append_separator {xs xs' ys ys' : List Char} (hxs : '/' ∉ xs)
    (hxs' : '/' ∉ xs') (h : xs ++ '/' :: ys = xs' ++ '/' :: ys') : xs = xs' ∧ ys = ys' := by
  induction xs generalizing xs' with
  | nil =>
    cases xs' with
    | nil => exact ⟨rfl, (List.cons.inj h).2⟩
    | cons c rest =>
      have hc : '/' = c := (List.cons.inj h).1
      exact absurd (hc ▸ List.mem_cons_self) hxs'
  | cons x xs ih =>
    cases xs' with
    | nil =>
      have hx : x = '/' := (List.cons.inj h).1
      exact absurd (hx ▸ List.mem_cons_self) hxs
    | cons c rest =>
      obtain ⟨rfl, htail⟩ := List.cons.inj h
      obtain ⟨rfl, rfl⟩ := ih (fun hmem => hxs (List.mem_cons_of_mem _ hmem))
        (fun hmem => hxs' (List.mem_cons_of_mem _ hmem)) htail
      exact ⟨rfl, rfl⟩

/-- **Keys under plain organizations tell their children apart.** -/
theorem entry_inj (ho : Plain o) (ho' : Plain o') (h : entry o kind c = entry o' kind' c') :
    o = o' ∧ kind = kind' ∧ c = c' := by
  have hlist := congrArg String.toList h
  rw [toList_entry, toList_entry] at hlist
  obtain ⟨horg, htail⟩ := eq_and_eq_of_append_separator ho ho' hlist
  obtain ⟨hname, hchild⟩ :=
    eq_and_eq_of_append_separator kind.plain_name kind'.plain_name htail
  exact ⟨String.toList_injective horg, ChildKind.name_inj (String.toList_injective hname),
    String.toList_injective hchild⟩

/-- A key has one separator more than its organization and its child have, and another. -/
theorem count_entry (o : String) (kind : ChildKind) (c : String) :
    (entry o kind c).toList.count '/' = o.toList.count '/' + c.toList.count '/' + 2 := by
  have hname : kind.name.toList.count '/' = 0 := List.count_eq_zero.mpr kind.plain_name
  rw [toList_entry]
  simp only [List.count_append, List.count_cons_self, hname]
  omega

/-- **A key of plain parts is the key of no other parts**, whatever those are. -/
theorem eq_of_entry_eq (ho : Plain o) (hc : Plain c) (h : entry o kind c = entry o' kind' c') :
    o = o' ∧ kind = kind' ∧ c = c' := by
  -- both keys have as many separators, and plain parts leave none for the others
  have hcount : o'.toList.count '/' = 0 := by
    have heq := congrArg (fun key => key.toList.count '/') h
    simp only [count_entry] at heq
    rw [List.count_eq_zero.mpr ho, List.count_eq_zero.mpr hc] at heq
    omega
  exact entry_inj ho (List.count_eq_zero.mp hcount) h

/-! ### What stands after a stem -/

theorem afterStem?_eq_some_iff {stem text rest : String} :
    afterStem? stem text = some rest ↔ text = stem ++ rest := by
  unfold afterStem?
  split
  · next hprefix =>
    obtain ⟨tail, htail⟩ := List.isPrefixOf_iff_prefix.mp hprefix
    have hdrop : text.toList.drop stem.length = tail := by
      rw [← htail, ← String.length_toList, List.drop_left]
    have htext : text = stem ++ rest ↔ text.toList = stem.toList ++ rest.toList := by
      rw [← String.toList_inj, String.toList_append]
    rw [hdrop, Option.some.injEq, htext, ← String.toList_inj, ← htail, String.toList_ofList]
    exact (List.append_right_inj _).symm
  · next hprefix =>
    refine iff_of_false (by simp) ?_
    rintro rfl
    exact hprefix (List.isPrefixOf_iff_prefix.mpr ⟨rest.toList, String.toList_append.symm⟩)

/-- The texts that `afterStem?` finds under the stem of a kind are ids of its children. -/
theorem afterStem?_stem_eq_some_iff {key : String} :
    afterStem? (stem o kind) key = some c ↔ key = entry o kind c :=
  afterStem?_eq_some_iff

/-- Ids under the same stem are in the order of their keys. -/
theorem lt_of_entry_lt (h : entry o kind c < entry o kind c') : c < c' := by
  rw [String.lt_iff, entry, entry, String.toList_append, String.toList_append] at h
  by_contra hnot
  by_cases heq : c = c'
  · subst heq
    exact List.lt_irrefl _ h
  -- ids the other way round would make the keys the other way round
  · have hlt := String.lt_iff.mp (OrderedMap.lt_of_not_lt_of_ne hnot heq)
    exact List.lt_asymm h (List.append_left_lt hlt)

/-! ### Scans -/

/-- What lies between a text and one of its extensions extends it too. -/
theorem prefix_of_between {s xs ys : List Char} (hlow : ¬ xs < s) (hhigh : xs < s ++ ys) :
    s <+: xs := by
  induction s generalizing xs with
  | nil => exact List.nil_prefix
  | cons a s ih =>
    cases xs with
    | nil => exact absurd (List.nil_lt_cons a s) hlow
    | cons x xs =>
      rw [List.cons_append, List.cons_lt_cons_iff] at hhigh
      rw [List.cons_lt_cons_iff] at hlow
      rcases hhigh with hlt | ⟨rfl, htail⟩
      · exact absurd (Or.inl hlt) hlow
      · exact (List.cons_prefix_cons).mpr ⟨rfl, ih (fun h => hlow (Or.inr ⟨rfl, h⟩)) htail⟩

/-- A text below a stem does not start with it. -/
theorem afterStem?_of_lt {stem key : String} (h : key < stem) : afterStem? stem key = none := by
  refine Option.eq_none_iff_forall_ne_some.mpr fun rest hrest => ?_
  rw [afterStem?_eq_some_iff] at hrest
  subst hrest
  rw [String.lt_iff, String.toList_append] at h
  exact List.not_lt.mpr List.le_append_left h

/-- Above a text that does not start with a stem, and is not below it, no text does. -/
theorem afterStem?_of_gt {stem key later : String} (hlow : ¬ key < stem)
    (hnone : afterStem? stem key = none) (hlt : key < later) : afterStem? stem later = none := by
  refine Option.eq_none_iff_forall_ne_some.mpr fun rest hrest => ?_
  rw [afterStem?_eq_some_iff] at hrest
  subst hrest
  rw [String.lt_iff, String.toList_append] at hlt
  -- if the later text extended the stem, so would what lies between
  obtain ⟨tail, htail⟩ := prefix_of_between hlow hlt
  have hkey : key = stem ++ String.ofList tail := by
    rw [← String.toList_inj, String.toList_append, String.toList_ofList, htail]
  rw [afterStem?_eq_some_iff.mpr hkey] at hnone
  cases hnone

/-- From its start on, an ascending scan meets no key below the start. -/
theorem not_lt_of_mem_dropWhile {start : String} {keys : List String}
    (hasc : keys.Pairwise (· < ·)) : ∀ key ∈ keys.dropWhile (· < start), ¬ key < start := by
  induction keys with
  | nil => simp
  | cons key rest ih =>
    obtain ⟨hhead, hrest⟩ := List.pairwise_cons.mp hasc
    simp only [List.dropWhile_cons, decide_eq_true_eq]
    by_cases h : key < start
    · rw [if_pos h]
      exact ih hrest
    · rw [if_neg h]
      intro later hmem hlt
      rcases List.mem_cons.mp hmem with rfl | hmem
      · exact h hlt
      · exact h (String.lt_trans (hhead later hmem) hlt)

/-- Past the start of a scan, the part up to the first key without the stem has
all keys with it. -/
theorem takeWhile_eq_filterMap {stem : String} {keys : List String}
    (hasc : keys.Pairwise (· < ·)) (hlow : ∀ key ∈ keys, ¬ key < stem) :
    ((keys.map (afterStem? stem)).takeWhile Option.isSome).filterMap id =
      keys.filterMap (afterStem? stem) := by
  induction keys with
  | nil => rfl
  | cons key rest ih =>
    obtain ⟨hhead, hrest⟩ := List.pairwise_cons.mp hasc
    rcases e : afterStem? stem key with - | id
    · -- the scan ends here, and nothing above has the stem
      have hnone : rest.filterMap (afterStem? stem) = [] := by
        refine List.filterMap_eq_nil_iff.mpr fun later hmem => ?_
        exact afterStem?_of_gt (hlow key List.mem_cons_self) e (hhead later hmem)
      simp [e, hnone]
    · have htail := ih hrest fun later hmem => hlow later (List.mem_cons_of_mem _ hmem)
      simpa [e] using htail

/-- **A scan from a stem to the first key without it finds every key with it.** -/
theorem scan_eq_filterMap (stem : String) {keys : List String} (hasc : keys.Pairwise (· < ·)) :
    (((keys.dropWhile (· < stem)).map (afterStem? stem)).takeWhile Option.isSome).filterMap id =
      keys.filterMap (afterStem? stem) := by
  -- what the scan passes over has no key with the stem
  have hskipped : (keys.takeWhile (· < stem)).filterMap (afterStem? stem) = [] := by
    refine List.filterMap_eq_nil_iff.mpr fun key hmem => afterStem?_of_lt ?_
    simpa only [decide_eq_true_eq] using List.mem_takeWhile_imp hmem
  have hkept : ∀ key ∈ keys.dropWhile (· < stem), ¬ key < stem :=
    not_lt_of_mem_dropWhile hasc
  calc
    _ = (keys.dropWhile (· < stem)).filterMap (afterStem? stem) :=
      takeWhile_eq_filterMap (hasc.sublist (List.dropWhile_sublist _)) hkept
    _ = (keys.takeWhile (· < stem) ++ keys.dropWhile (· < stem)).filterMap (afterStem? stem) := by
      rw [List.filterMap_append, hskipped, List.nil_append]
    _ = keys.filterMap (afterStem? stem) := by rw [List.takeWhile_append_dropWhile]

end IndexKey

end TenantRegistry
