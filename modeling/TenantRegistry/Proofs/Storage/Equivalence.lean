/-
TenantRegistry/Proofs/Storage/Equivalence.lean

Both sorts of storage answer alike.

The two are built differently.  Memory keeps rows as values and scans a part of
the index; a database keeps texts, reads one whenever it hands out a row, and
looks at every key of the index.  A client that starts with nothing stored
cannot tell them apart: whatever it asks for, and in whatever order, the values
and the errors that it gets are the same, and so is the wording of the errors.

A client asks for calls, and for the rows of an owner, which is a listing of
which the rest is left out (`Access`).  One access agrees, and it leaves a
database that again agrees (`Durable.Faithful.answer`); the rest is an induction
on the list of accesses.

Main result: `answers_alike`.
-/
import TenantRegistry.Proofs.Ending

namespace TenantRegistry

/-! ### Accesses -/

variable {σ : Type}

/-- The answers to accesses that are made one after another, and the state of
storage after them. -/
def Backend.answers (backend : Backend σ) :
    List Access → σ → List ((access : Access) × Except StoreError access.Answer) × σ
  | [], store => ([], store)
  | access :: rest, store =>
    let (answer, store) := backend.answer access store
    let (answers, store) := backend.answers rest store
    (⟨access, answer⟩ :: answers, store)

/-- The rows of an owner are those that the registry lists by owner. -/
theorem runWith_listByOwner (backend : Backend σ) (table : Table) (owner : String)
    (world : World σ) :
    (listByOwner table owner).runWith backend world =
      ((backend.answer (.rowsOf table owner) world.store).1.mapError RegistryError.ofStore,
        { world with store := (backend.answer (.rowsOf table owner) world.store).2 }) := by
  -- the listing fails, or the rows of other owners are left out
  rcases e : backend.perform (.list table) world.store with ⟨error | rows, store⟩
  · rw [listByOwner, Procedure.runWith_bind_error (Procedure.runWith_perform_error e)]
    simp only [Backend.answer, e]
    rfl
  · rw [listByOwner, Procedure.runWith_bind_ok (Procedure.runWith_perform e)]
    simp only [Backend.answer, e]
    rfl

/-! ### One access -/

/-- **A database answers an access as memory with its contents does.** -/
theorem Durable.Faithful.answer {database : Durable} (h : database.Faithful) (access : Access) :
    Agrees (Backend.durable.answer access database)
      (Backend.memory.answer access database.contents) := by
  cases access with
  | call c => exact h.perform c
  | rowsOf table owner =>
    obtain ⟨hanswer, hcontents, hfaithful⟩ := h.perform (.list table)
    exact ⟨congrArg (Except.map _) hanswer, hcontents, hfaithful⟩

/-! ### Accesses one after another -/

/-- **A database answers accesses as memory with its contents does.** -/
theorem Durable.Faithful.answers {database : Durable} (h : database.Faithful)
    (accesses : List Access) :
    Agrees (Backend.durable.answers accesses database)
      (Backend.memory.answers accesses database.contents) := by
  induction accesses generalizing database with
  | nil => exact .of_answer h rfl
  | cons access rest ih =>
    -- the first access leaves a database with the contents that it leaves in memory
    obtain ⟨hanswer, hcontents, hfaithful⟩ := h.answer access
    obtain ⟨hanswers, hcontents', hfaithful'⟩ := ih hfaithful
    rw [hcontents] at hanswers hcontents'
    refine ⟨?_, hcontents', hfaithful'⟩
    simp only [Backend.answers]
    rw [hanswer, hanswers]

/-- **Memory and a database answer alike**, to any accesses one after another,
if both start with nothing stored. -/
theorem answers_alike (accesses : List Access) :
    (Backend.memory.answers accesses .empty).1 = (Backend.durable.answers accesses .empty).1 := by
  have hagrees := Durable.faithful_empty.answers accesses
  rw [Durable.contents_empty] at hagrees
  exact hagrees.answer.symm

end TenantRegistry
