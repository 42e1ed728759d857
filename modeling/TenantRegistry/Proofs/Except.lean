/-
TenantRegistry/Proofs/Except.lean

Results that may be errors.

Rules, answers of storage and results of operations are all of this form, and
each is made of others by doing one after another.  What succeeds succeeded in
all its parts; what fails fails with the error of the first part that does.  A
list is mapped element by element, so that success pairs the two lists
(`forall₂_of_mapM_eq_ok`) and failure is of one element
(`exists_of_mapM_eq_error`).
-/
import Mathlib.Data.List.Forall2

namespace TenantRegistry

/-! ### One result after another -/

section Results

variable {ε α β : Type} {first : Except ε α} {rest : α → Except ε β}

/-- What succeeds succeeded in all its parts. -/
theorem bind_eq_ok_iff {value : β} :
    first >>= rest = .ok value ↔ ∃ x, first = .ok x ∧ rest x = .ok value := by
  cases first with
  | error error => exact iff_of_false nofun nofun
  | ok x =>
    constructor
    · exact fun h => ⟨x, rfl, h⟩
    · rintro ⟨_, ⟨⟩, h⟩
      exact h

/-- What fails fails at first, or later. -/
theorem bind_eq_error_iff {error : ε} :
    first >>= rest = .error error ↔
      first = .error error ∨ ∃ value, first = .ok value ∧ rest value = .error error := by
  cases first with
  | error cause =>
    constructor
    · rintro ⟨⟩
      exact Or.inl rfl
    · rintro (⟨⟨⟩⟩ | ⟨_, ⟨⟩, -⟩)
      rfl
  | ok value =>
    constructor
    · exact fun h => Or.inr ⟨value, rfl, h⟩
    · rintro (⟨⟨⟩⟩ | ⟨_, ⟨⟩, h⟩)
      exact h

/-- Two checks are passed one after the other. -/
theorem both_eq_ok_iff {first : Except ε Unit} {rest : Unit → Except ε Unit} :
    first >>= rest = .ok () ↔ first = .ok () ∧ rest () = .ok () := by
  rw [bind_eq_ok_iff]
  exact ⟨fun ⟨_, hfirst, hrest⟩ => ⟨hfirst, hrest⟩, fun ⟨hfirst, hrest⟩ => ⟨(), hfirst, hrest⟩⟩

theorem toOption_eq_some_iff {value : α} : first.toOption = some value ↔ first = .ok value := by
  cases first with
  | error error => exact iff_of_false nofun nofun
  | ok found =>
    exact (Option.some.injEq found value).to_iff.trans (Except.ok.injEq found value).to_iff.symm

end Results

/-! ### Lists -/

section Lists

variable {ε α β : Type}

/-- Each element of a list is mapped, or the whole fails. -/
theorem forall₂_of_mapM_eq_ok {f : α → Except ε β} {xs : List α} {ys : List β}
    (h : xs.mapM f = .ok ys) : List.Forall₂ (fun x y => f x = .ok y) xs ys := by
  induction xs generalizing ys with
  | nil =>
    cases h
    exact .nil
  | cons x xs ih =>
    rw [List.mapM_cons] at h
    obtain ⟨y, hy, h⟩ := bind_eq_ok_iff.mp h
    obtain ⟨rest, hrest, h⟩ := bind_eq_ok_iff.mp h
    cases h
    exact .cons hy (ih hrest)

/-- A list fails with what one of its elements fails with. -/
theorem exists_of_mapM_eq_error {f : α → Except ε β} {xs : List α} {error : ε}
    (h : xs.mapM f = .error error) : ∃ x ∈ xs, f x = .error error := by
  induction xs with
  | nil => cases h
  | cons x xs ih =>
    rw [List.mapM_cons] at h
    rcases bind_eq_error_iff.mp h with hx | ⟨y, -, h⟩
    · exact ⟨x, List.mem_cons_self, hx⟩
    rcases bind_eq_error_iff.mp h with hxs | ⟨ys, -, h⟩
    · obtain ⟨x', hmem, hx'⟩ := ih hxs
      exact ⟨x', List.mem_cons_of_mem _ hmem, hx'⟩
    · cases h

variable {R : α → β → Prop} {xs : List α} {ys : List β}

/-- What holds of the elements of one list holds of those of another that goes by them. -/
theorem forall_mem_of_forall₂ {p : α → Prop} {q : β → Prop} (h : List.Forall₂ R xs ys)
    (hq : ∀ x y, R x y → p x → q y) (hp : ∀ x ∈ xs, p x) : ∀ y ∈ ys, q y := by
  induction h with
  | nil => exact List.forall_mem_nil _
  | cons hxy _ ih =>
    obtain ⟨hx, hxs⟩ := List.forall_mem_cons.mp hp
    exact List.forall_mem_cons.mpr ⟨hq _ _ hxy hx, ih hxs⟩

/-- Each element of a list stands next to one of the other. -/
theorem exists_of_forall₂ (h : List.Forall₂ R xs ys) : ∀ x ∈ xs, ∃ y, R x y := by
  have hflip : List.Forall₂ (fun y x => R x y) ys xs := h.flip
  exact forall_mem_of_forall₂ hflip (fun y x hxy _ => ⟨y, hxy⟩) fun _ _ => trivial

end Lists

end TenantRegistry
