/-
TenantRegistry/Proofs/EditFirst.lean

Lists in which the first element that fits is edited.

Group instances and service instances are edited in place, each time the first
one that a search finds.  A search that finds an element splits the list there,
and the edit is of what stands between the two parts (`editFirst_append`);
without such an element nothing is edited.  All else about an edited list
follows from how it is split: what is in it, what is collected from it, and
how two edits of one list compare.

A search is mostly for an id.  If ids do not repeat, no other element has it,
and so a find and an edit are about the only one that does (`Singled`), with
whatever stands before and after it left as it is.
-/
import Mathlib.Data.List.Forall2
import Mathlib.Data.List.Nodup
import TenantRegistry.Instance

namespace TenantRegistry

section EditFirst

variable {α β : Type} {test : α → Bool} {edit : α → α} {xs : List α} {x y : α}

/-! ### Where the edit is -/

/-- The edit is of the first element that fits. -/
theorem editFirst_append {before after : List α} (hbefore : ∀ y ∈ before, ¬ test y = true)
    (hx : test x = true) (edit : α → α) :
    editFirst test edit (before ++ x :: after) = before ++ edit x :: after := by
  induction before with
  | nil => exact if_pos hx
  | cons y ys ih =>
    obtain ⟨hy, hys⟩ := List.forall_mem_cons.mp hbefore
    rw [List.cons_append, editFirst, if_neg hy, ih hys, List.cons_append]

/-- Where nothing fits, nothing is edited. -/
theorem editFirst_of_find?_eq_none (h : xs.find? test = none) : editFirst test edit xs = xs := by
  induction xs with
  | nil => rfl
  | cons x xs ih =>
    obtain ⟨hx, hxs⟩ := List.forall_mem_cons.mp (List.find?_eq_none.mp h)
    rw [editFirst, if_neg hx, ih (List.find?_eq_none.mpr hxs)]

/-- **What is found is edited where it stands.** -/
theorem exists_editFirst_eq (h : xs.find? test = some x) :
    ∃ before after, xs = before ++ x :: after ∧
      ∀ edit, editFirst test edit xs = before ++ edit x :: after := by
  obtain ⟨hx, before, after, rfl, hbefore⟩ := List.find?_eq_some_iff_append.mp h
  exact ⟨before, after, rfl, editFirst_append (fun y hy => by simpa using hbefore y hy) hx⟩

/-! ### What is in the list -/

theorem mem_editFirst_of_find? (h : xs.find? test = some x) : edit x ∈ editFirst test edit xs := by
  obtain ⟨before, after, -, hedited⟩ := exists_editFirst_eq h
  rw [hedited]
  exact List.mem_append_right _ List.mem_cons_self

/-- An element was there before, or is what was found and edited. -/
theorem find?_of_mem_editFirst (h : y ∈ editFirst test edit xs) :
    y ∈ xs ∨ ∃ x ∈ xs, xs.find? test = some x ∧ y = edit x := by
  cases hfound : xs.find? test with
  | none =>
    rw [editFirst_of_find?_eq_none hfound] at h
    exact Or.inl h
  | some x =>
    obtain ⟨before, after, rfl, hedited⟩ := exists_editFirst_eq hfound
    rw [hedited] at h
    rcases List.mem_append.mp h with h | h
    · exact Or.inl (List.mem_append_left _ h)
    rcases List.mem_cons.mp h with rfl | h
    · exact Or.inr ⟨x, List.mem_append_right _ List.mem_cons_self, rfl, rfl⟩
    · exact Or.inl (List.mem_append_right _ (List.mem_cons_of_mem _ h))

theorem mem_editFirst (h : y ∈ editFirst test edit xs) :
    y ∈ xs ∨ ∃ x ∈ xs, test x = true ∧ y = edit x := by
  refine (find?_of_mem_editFirst h).imp_right ?_
  rintro ⟨x, hx, hfound, rfl⟩
  exact ⟨x, hx, List.find?_some hfound, rfl⟩

/-! ### What is collected from the list -/

/-- An edit that keeps what is collected from an element keeps all that is collected. -/
theorem flatMap_editFirst_of_same (f : α → List β) (h : ∀ x, f (edit x) = f x) (xs : List α) :
    (editFirst test edit xs).flatMap f = xs.flatMap f := by
  cases hfound : xs.find? test with
  | none => rw [editFirst_of_find?_eq_none hfound]
  | some x =>
    obtain ⟨before, after, rfl, hedited⟩ := exists_editFirst_eq hfound
    rw [hedited, List.flatMap_append, List.flatMap_append, List.flatMap_cons, List.flatMap_cons, h]

/-- An edit that adds to what is collected from an element adds to all that is collected. -/
theorem flatMap_editFirst_perm {f : α → List β} {more : List β}
    (h : ∀ x, f (edit x) = f x ++ more) (hfound : xs.find? test ≠ none) :
    ((editFirst test edit xs).flatMap f).Perm (xs.flatMap f ++ more) := by
  obtain ⟨x, hfound⟩ := Option.ne_none_iff_exists'.mp hfound
  obtain ⟨before, after, rfl, hedited⟩ := exists_editFirst_eq hfound
  rw [hedited, List.flatMap_append, List.flatMap_append, List.flatMap_cons, List.flatMap_cons, h]
  simp only [List.append_assoc]
  exact (List.perm_append_comm.append_left _).append_left _

/-! ### Two edits -/

/-- A list that is edited in two ways matches if what is edited does. -/
theorem forall₂_editFirst_iff {matching : α → α → Prop} (hself : ∀ x, matching x x)
    {edit edit' : α → α} (hfound : xs.find? test = some x) :
    List.Forall₂ matching (editFirst test edit xs) (editFirst test edit' xs) ↔
      matching (edit x) (edit' x) := by
  obtain ⟨before, after, -, hedited⟩ := exists_editFirst_eq hfound
  rw [hedited, hedited]
  clear hfound hedited
  induction before with
  | nil =>
    exact List.forall₂_cons.trans (and_iff_left (List.forall₂_same.mpr fun z _ => hself z))
  | cons y ys ih => exact List.forall₂_cons.trans ((and_iff_right (hself y)).trans ih)

end EditFirst

/-! ### The only element with an id -/

/-- `Singled id xs key before x after`: of the elements of a list just one has the given id, and
this is where it stands. -/
structure Singled {α : Type} (id : α → String) (xs : List α) (key : String) (before : List α)
    (x : α) (after : List α) : Prop where
  split : xs = before ++ x :: after
  named : id x = key
  others : ∀ y ∈ before ++ after, id y ≠ key

namespace Singled

variable {α : Type} {id : α → String} {xs before after : List α} {key : String} {x : α}

/-- Where ids differ each element is the only one with its id. -/
theorem exists_of_mem (hnodup : (xs.map id).Nodup) (hmem : x ∈ xs) :
    ∃ before after, Singled id xs (id x) before x after := by
  obtain ⟨before, after, rfl⟩ := List.append_of_mem hmem
  rw [List.map_append, List.map_cons, List.nodup_middle, List.nodup_cons,
    ← List.map_append] at hnodup
  refine ⟨before, after, rfl, rfl, fun y hy heq => hnodup.1 ?_⟩
  exact heq ▸ List.mem_map_of_mem hy

/-- A search for the id finds that element, whatever else is asked of it that it fulfils. -/
theorem find?_eq (h : Singled id xs key before x after) {test : α → Bool}
    (htest : ∀ y, test y = true → id y = key) (hx : test x = true) : xs.find? test = some x := by
  rw [h.split, List.find?_append, List.find?_cons_of_pos hx, List.find?_eq_none.mpr]
  · rfl
  · exact fun y hy htrue => h.others y (List.mem_append_left _ hy) (htest y htrue)

/-- An edit of the first one is an edit of that element. -/
theorem editFirst_eq (h : Singled id xs key before x after) {test : α → Bool}
    (htest : ∀ y, test y = true → id y = key) (hx : test x = true) (edit : α → α) :
    editFirst test edit xs = before ++ edit x :: after := by
  rw [h.split]
  exact editFirst_append
    (fun y hy htrue => h.others y (List.mem_append_left _ hy) (htest y htrue)) hx edit

/-- A search for the id alone. -/
theorem find?_id (h : Singled id xs key before x after) :
    (xs.find? fun y => id y = key) = some x :=
  h.find?_eq (fun _ => of_decide_eq_true) (decide_eq_true h.named)

/-- An edit of what has the id. -/
theorem editFirst_id (h : Singled id xs key before x after) (edit : α → α) :
    editFirst (fun y => id y = key) edit xs = before ++ edit x :: after :=
  h.editFirst_eq (fun _ => of_decide_eq_true) (decide_eq_true h.named) edit

end Singled

/-! ### The first element with an id -/

section Find

variable {α : Type} {id : α → String} {xs : List α} {key : String} {x : α}

/-- What is found by its id is there, and has it. -/
theorem of_find?_id (h : (xs.find? fun y => id y = key) = some x) : x ∈ xs ∧ id x = key := by
  have hfound := List.find?_some h
  exact ⟨List.mem_of_find?_eq_some h, of_decide_eq_true hfound⟩

/-- What is there is found by its id, or another element with the same one is. -/
theorem exists_find?_id (hmem : x ∈ xs) (hid : id x = key) :
    ∃ found, (xs.find? fun y => id y = key) = some found := by
  refine Option.isSome_iff_exists.mp (List.find?_isSome.mpr ⟨x, hmem, ?_⟩)
  exact decide_eq_true hid

/-- Where ids differ an element is found by its own. -/
theorem find?_id_of_nodup (hnodup : (xs.map id).Nodup) (hmem : x ∈ xs) (hid : id x = key) :
    (xs.find? fun y => id y = key) = some x := by
  subst hid
  obtain ⟨before, after, h⟩ := Singled.exists_of_mem hnodup hmem
  exact h.find?_id

end Find

end TenantRegistry
