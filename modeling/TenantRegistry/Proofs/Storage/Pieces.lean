/-
TenantRegistry/Proofs/Storage/Pieces.lean

What one call adds to storage and one call takes away again.

A `Piece` is a row or an entry of the index.  To insert it is one call, which is
refused if something is in its place already, and to withdraw it is another.

`Backend.Orderly` says what a rollback relies on: a refused call changes nothing,
a piece that was inserted is withdrawn without a trace, and pieces that go to
different places have nothing to do with each other.  Half of that says that
something stays as it was, so it is said once, of any part of storage that a call
leaves alone (`Keeping`).  Storage of either sort is orderly in every state,
whatever its rows, its index and its texts are.

Main result: `Store.orderly`.
-/
import TenantRegistry.Proofs.Writing

namespace TenantRegistry

/-! ### Pieces -/

/-- Something that one call adds to storage. -/
inductive Piece where
  | row (table : Table) (row : table.Row)
  /-- An entry of the index. -/
  | entry (organizationId : String) (kind : ChildKind) (childId : String)

namespace Piece

/-- The call that adds a piece. -/
def insertion : Piece → Call
  | .row table held => .add table held
  | .entry o kind c => .addChild o kind c

/-- The call that takes a piece away. -/
def withdrawal : Piece → Call
  | .row table held => .remove table (table.key held)
  | .entry o kind c => .removeChild o kind c

/-- The table that a piece goes to, unless it goes to the index. -/
def table? : Piece → Option Table
  | .row table _ => some table
  | .entry _ _ _ => none

/-- Pieces that go to different places, and neither among the organizations, which the index
asks about. -/
structure Apart (piece other : Piece) : Prop where
  places : piece.table? ≠ other.table?
  aside : piece.table? ≠ some .organizations
  other_aside : other.table? ≠ some .organizations

theorem apart_iff {piece other : Piece} : piece.Apart other ↔
    piece.table? ≠ other.table? ∧ piece.table? ≠ some .organizations ∧
      other.table? ≠ some .organizations :=
  ⟨fun h => ⟨h.places, h.aside, h.other_aside⟩, fun ⟨h, h', h''⟩ => ⟨h, h', h''⟩⟩

theorem Apart.symm {piece other : Piece} (h : piece.Apart other) : other.Apart piece :=
  ⟨h.places.symm, h.other_aside, h.aside⟩

end Piece

namespace Backend

variable {σ : Type} (backend : Backend σ)

/-- Add a piece. -/
def insert : Piece → σ → Except StoreError Unit × σ
  | .row table row, store => backend.perform (.add table row) store
  | .entry o kind c, store => backend.perform (.addChild o kind c) store

/-- Take a piece away. -/
def withdraw : Piece → σ → Except StoreError Unit × σ
  | .row table row, store => backend.perform (.remove table (table.key row)) store
  | .entry o kind c, store => backend.perform (.removeChild o kind c) store

/-- **What a rollback relies on.** -/
structure Orderly : Prop where
  reads : ∀ call store, call.Reads → (backend.perform call store).2 = store
  refused : ∀ piece store error, (backend.insert piece store).1 = .error error →
    (backend.insert piece store).2 = store
  withdrawn : ∀ piece store, (backend.insert piece store).1 = .ok () →
    backend.withdraw piece (backend.insert piece store).2 = (.ok (), store)
  insert_apart : ∀ piece other store, Piece.Apart piece other →
    (backend.insert piece (backend.insert other store).2).1 = (backend.insert piece store).1
  withdraw_apart : ∀ piece other store, Piece.Apart piece other →
    backend.withdraw piece (backend.insert other store).2 =
      ((backend.withdraw piece store).1, (backend.insert other (backend.withdraw piece store).2).2)

end Backend

/-! ### Storage in ordered maps -/

/-- Two tables are set in any order. -/
theorem Tables.set_comm {F : Table → Type} (tables : Tables F) {first second : Table}
    (value : F first) (value' : F second) (h : first ≠ second) :
    (tables.set first value).set second value' = (tables.set second value').set first value := by
  refine Tables.ext_get fun table => ?_
  by_cases hfirst : table = first
  · subst hfirst
    rw [get_set_of_ne _ _ h, get_set_self, get_set_self]
  · by_cases hsecond : table = second
    · subst hsecond
      rw [get_set_self, get_set_of_ne _ _ hfirst, get_set_self]
    · rw [get_set_of_ne _ _ hsecond, get_set_of_ne _ _ hfirst, get_set_of_ne _ _ hfirst,
        get_set_of_ne _ _ hsecond]

/-- A table that is set twice is as it was set last, and set back it is as if it was not. -/
theorem Tables.set_set_get {F : Table → Type} (tables : Tables F) (table : Table)
    (value : F table) : (tables.set table value).set table (tables.get table) = tables := by
  refine Tables.ext_get fun other => ?_
  by_cases h : other = table
  · subst h
    rw [get_set_self]
  · rw [get_set_of_ne _ _ h, get_set_of_ne _ _ h]

/-- Storage that keeps something of its own for each row, and for each entry of the index, in
ordered maps. -/
structure Backend.Keeping {σ : Type} (backend : Backend σ) (Held : Table → Type)
    (Label : Type) where
  hold : (table : Table) → table.Row → Held table
  label : String → Label
  /-- The rows, as they are kept. -/
  tables : σ → Tables fun table => OrderedMap (Held table)
  /-- The index, as it is kept. -/
  children : σ → OrderedMap Label
  make : (Tables fun table => OrderedMap (Held table)) → OrderedMap Label → σ
  make_self : ∀ store, make (tables store) (children store) = store
  tables_make : ∀ kept index, tables (make kept index) = kept
  children_make : ∀ kept index, children (make kept index) = index
  reads : ∀ call store, call.Reads → (backend.perform call store).2 = store
  add : ∀ table row store, backend.perform (.add table row) store =
    if ((tables store).get table).contains (table.key row) then
      (.error (.alreadyExists (.row table (table.key row))), store)
    else
      (.ok (), make ((tables store).set table
        (((tables store).get table).insert (table.key row) (hold table row))) (children store))
  remove : ∀ table key store, backend.perform (.remove table key) store =
    if ((tables store).get table).contains key then
      (.ok (), make ((tables store).set table (((tables store).get table).erase key))
        (children store))
    else (.error (.notFound (.row table key)), store)
  addChild : ∀ o kind c store, backend.perform (.addChild o kind c) store =
    if !((tables store).get .organizations).contains o then
      (.error (.notFound (.organization o)), store)
    else if (children store).contains (IndexKey.entry o kind c) then
      (.error (.alreadyExists (.child kind c o)), store)
    else
      (.ok (), make (tables store) ((children store).insert (IndexKey.entry o kind c) (label c)))
  removeChild : ∀ o kind c store, backend.perform (.removeChild o kind c) store =
    if (children store).contains (IndexKey.entry o kind c) then
      (.ok (), make (tables store) ((children store).erase (IndexKey.entry o kind c)))
    else (.error (.notFound (.child kind c o)), store)

namespace Backend.Keeping

variable {σ : Type} {backend : Backend σ} {Held : Table → Type} {Label : Type}
  (keeping : backend.Keeping Held Label)

include keeping

/-- A table is not touched by a piece that goes elsewhere. -/
theorem get_insert_of_ne (piece : Piece) (store : σ) {table : Table}
    (h : piece.table? ≠ some table) :
    (keeping.tables (backend.insert piece store).2).get table =
      (keeping.tables store).get table := by
  cases piece with
  | row other row =>
    have hne : table ≠ other := fun heq => h (congrArg some heq.symm)
    rw [insert, keeping.add]
    split
    · rfl
    · rw [keeping.tables_make, Tables.get_set_of_ne _ _ hne]
  | entry o kind c =>
    rw [insert, keeping.addChild]
    split
    · rfl
    · split
      · rfl
      · rw [keeping.tables_make]

/-- The index is not touched by a row. -/
theorem children_insert_row (table : Table) (row : table.Row) (store : σ) :
    keeping.children (backend.insert (.row table row) store).2 = keeping.children store := by
  rw [insert, keeping.add]
  split
  · rfl
  · rw [keeping.children_make]

/-- A piece is inserted past a change of a table that it does not go to. -/
theorem insert_set_apart (piece : Piece) (store : σ) {table : Table}
    (kept : OrderedMap (Held table)) (h : piece.table? ≠ some table)
    (haside : some table ≠ some Table.organizations) :
    (backend.insert piece
      (keeping.make ((keeping.tables store).set table kept) (keeping.children store))).2 =
      keeping.make ((keeping.tables (backend.insert piece store).2).set table kept)
        (keeping.children (backend.insert piece store).2) := by
  cases piece with
  | row other row =>
    have hne : other ≠ table := fun heq => h (congrArg some heq)
    rw [insert, insert, keeping.add, keeping.add, keeping.tables_make, keeping.children_make,
      Tables.get_set_of_ne _ _ hne]
    split
    · rfl
    · rw [keeping.tables_make, keeping.children_make, Tables.set_comm _ _ _ hne.symm]
  | entry o kind c =>
    have hne : Table.organizations ≠ table := fun heq => haside (congrArg some heq.symm)
    rw [insert, insert, keeping.addChild, keeping.addChild, keeping.tables_make,
      keeping.children_make, Tables.get_set_of_ne _ _ hne]
    split
    · rfl
    · split
      · rfl
      · rw [keeping.tables_make, keeping.children_make]

/-- A row is inserted past a change of the index. -/
theorem insert_row_index (table : Table) (row : table.Row) (store : σ) (index : OrderedMap Label) :
    (backend.insert (.row table row) (keeping.make (keeping.tables store) index)).2 =
      keeping.make (keeping.tables (backend.insert (.row table row) store).2) index := by
  rw [insert, insert, keeping.add, keeping.add, keeping.tables_make, keeping.children_make]
  split
  · rfl
  · rw [keeping.tables_make]

/-- A refused piece changes nothing. -/
theorem insert_refused {piece : Piece} {store : σ} {error : StoreError}
    (h : (backend.insert piece store).1 = .error error) :
    (backend.insert piece store).2 = store := by
  cases piece with
  | row table row =>
    rw [insert, keeping.add] at h ⊢
    split at h
    · next hthere => rw [if_pos hthere]
    · cases h
  | entry o kind c =>
    rw [insert, keeping.addChild] at h ⊢
    split at h
    · next hmissing => rw [if_pos hmissing]
    · next hfound =>
      split at h
      · next hlisted => rw [if_neg hfound, if_pos hlisted]
      · cases h

/-- A piece that was inserted is withdrawn without a trace. -/
theorem withdraw_insert {piece : Piece} {store : σ} (h : (backend.insert piece store).1 = .ok ()) :
    backend.withdraw piece (backend.insert piece store).2 = (.ok (), store) := by
  cases piece with
  | row table row =>
    rw [insert, keeping.add] at h ⊢
    split at h
    · cases h
    · next habsent =>
      have hfree : ((keeping.tables store).get table).get? (table.key row) = none :=
        OrderedMap.contains_eq_false_iff.mp (by simpa using habsent)
      rw [if_neg habsent, withdraw, keeping.remove, keeping.tables_make, Tables.get_set_self,
        OrderedMap.contains_insert, if_pos (by simp), OrderedMap.erase_insert _ hfree,
        Tables.set_set_get, keeping.children_make, keeping.make_self]
  | entry o kind c =>
    rw [insert, keeping.addChild] at h ⊢
    split at h
    · cases h
    · next hfound =>
      split at h
      · cases h
      · next hunlisted =>
        have hfree : (keeping.children store).get? (IndexKey.entry o kind c) = none :=
          OrderedMap.contains_eq_false_iff.mp (by simpa using hunlisted)
        rw [if_neg hfound, if_neg hunlisted, withdraw, keeping.removeChild, keeping.children_make,
          OrderedMap.contains_insert, if_pos (by simp), OrderedMap.erase_insert _ hfree,
          keeping.tables_make, keeping.make_self]

/-- Whether a piece is accepted does not depend on one that goes elsewhere. -/
theorem insert_apart {piece other : Piece} (h : piece.Apart other) (store : σ) :
    (backend.insert piece (backend.insert other store).2).1 = (backend.insert piece store).1 := by
  cases piece with
  | row table row =>
    rw [insert, insert, keeping.add, keeping.add, keeping.get_insert_of_ne _ _ h.places.symm]
    split <;> rfl
  | entry o kind c =>
    cases other with
    | row table row =>
      show (backend.perform (.addChild o kind c) _).1 = (backend.perform (.addChild o kind c) _).1
      rw [keeping.addChild, keeping.addChild, keeping.get_insert_of_ne _ _ h.other_aside,
        keeping.children_insert_row]
      split
      · rfl
      · split <;> rfl
    | entry => exact absurd rfl h.places

/-- A piece is withdrawn past one that goes elsewhere. -/
theorem withdraw_apart {piece other : Piece} (h : piece.Apart other) (store : σ) :
    backend.withdraw piece (backend.insert other store).2 =
      ((backend.withdraw piece store).1,
        (backend.insert other (backend.withdraw piece store).2).2) := by
  cases piece with
  | row table row =>
    rw [withdraw, withdraw, keeping.remove, keeping.remove,
      keeping.get_insert_of_ne _ _ h.places.symm]
    split
    · exact Prod.ext rfl (keeping.insert_set_apart other store _ h.places.symm h.aside).symm
    · rfl
  | entry o kind c =>
    cases other with
    | row table row =>
      rw [withdraw, withdraw, keeping.removeChild, keeping.removeChild,
        keeping.children_insert_row]
      split
      · exact Prod.ext rfl (keeping.insert_row_index table row store _).symm
      · rfl
    | entry => exact absurd rfl h.places

end Backend.Keeping

/-! ### Storage of either sort -/

/-- Memory keeps rows. -/
def Memory.keeping : Backend.memory.Keeping Table.Row Unit where
  hold _ row := row
  label _ := ()
  tables := Memory.tables
  children := Memory.children
  make := Memory.mk
  make_self _ := rfl
  tables_make _ _ := rfl
  children_make _ _ := rfl
  reads _ memory h := memory.perform_of_reads h
  add _ _ _ := rfl
  remove _ _ _ := rfl
  addChild _ _ _ _ := rfl
  removeChild _ _ _ _ := rfl

/-- A database keeps texts. -/
def Durable.keeping : Backend.durable.Keeping (fun _ => String) String where
  hold := Durable.write
  label c := c
  tables := Durable.tables
  children := Durable.children
  make := Durable.mk
  make_self _ := rfl
  tables_make _ _ := rfl
  children_make _ _ := rfl
  reads call _ h := by cases call <;> first | rfl | exact h.elim
  add _ _ _ := rfl
  remove _ _ _ := rfl
  addChild _ _ _ _ := rfl
  removeChild _ _ _ _ := rfl

namespace Store

theorem insert_memory (piece : Piece) (memory : Memory) :
    Backend.store.insert piece (.memory memory) =
      ((Backend.memory.insert piece memory).1, .memory (Backend.memory.insert piece memory).2) := by
  cases piece <;> rfl

theorem insert_durable (piece : Piece) (database : Durable) :
    Backend.store.insert piece (.durable database) =
      ((Backend.durable.insert piece database).1,
        .durable (Backend.durable.insert piece database).2) := by
  cases piece <;> rfl

theorem withdraw_memory (piece : Piece) (memory : Memory) :
    Backend.store.withdraw piece (.memory memory) =
      ((Backend.memory.withdraw piece memory).1,
        .memory (Backend.memory.withdraw piece memory).2) := by
  cases piece <;> rfl

theorem withdraw_durable (piece : Piece) (database : Durable) :
    Backend.store.withdraw piece (.durable database) =
      ((Backend.durable.withdraw piece database).1,
        .durable (Backend.durable.withdraw piece database).2) := by
  cases piece <;> rfl

/-- **Storage of either sort is orderly, whatever it holds.** -/
theorem orderly : Backend.store.Orderly where
  reads call store h := by
    cases store with
    | memory memory => exact congrArg Store.memory (Memory.keeping.reads call memory h)
    | durable database => exact congrArg Store.durable (Durable.keeping.reads call database h)
  refused piece store error h := by
    cases store with
    | memory memory =>
      rw [insert_memory] at h ⊢
      exact congrArg Store.memory (Memory.keeping.insert_refused h)
    | durable database =>
      rw [insert_durable] at h ⊢
      exact congrArg Store.durable (Durable.keeping.insert_refused h)
  withdrawn piece store h := by
    cases store with
    | memory memory =>
      rw [insert_memory] at h ⊢
      rw [withdraw_memory, Memory.keeping.withdraw_insert h]
    | durable database =>
      rw [insert_durable] at h ⊢
      rw [withdraw_durable, Durable.keeping.withdraw_insert h]
  insert_apart piece other store h := by
    cases store with
    | memory memory =>
      rw [insert_memory, insert_memory, insert_memory]
      exact Memory.keeping.insert_apart h memory
    | durable database =>
      rw [insert_durable, insert_durable, insert_durable]
      exact Durable.keeping.insert_apart h database
  withdraw_apart piece other store h := by
    cases store with
    | memory memory =>
      rw [insert_memory, withdraw_memory, withdraw_memory, insert_memory,
        Memory.keeping.withdraw_apart h memory]
    | durable database =>
      rw [insert_durable, withdraw_durable, withdraw_durable, insert_durable,
        Durable.keeping.withdraw_apart h database]

end Store

end TenantRegistry
