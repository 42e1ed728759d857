/-
TenantRegistry/Proofs/Storage/Contents.lean

Storage of either sort, seen as memory.

A database holds texts, and what they say is a state of memory: its
`contents`.  As long as each text says some row (`Readable`), whatever is looked
at in the database is answered as it would be in memory.  As long as each text is
the writing of some row (`Faithful`), so are all calls, and they change the
contents as they would change memory (`Store.Faithful.perform`).  Two things make
this true: a row that was written is read back as it was, and the scan of the
index in memory finds what the look at every key finds.

A property of memory under all calls is so a property of both sorts of
storage, and what follows is proved in memory only.
-/
import TenantRegistry.Proofs.Json.Layouts
import TenantRegistry.Proofs.Storage.Changes
import TenantRegistry.Session

namespace TenantRegistry

namespace Durable

/-! ### Contents of a database -/

/-- The row that a text stands for, if it stands for one. -/
def row? (table : Table) (text : String) : Option table.Row :=
  (Json.parse text).bind table.rowLayout.decode

/-- What the texts of a database say. -/
def contents (database : Durable) : Memory where
  tables := .ofFn fun table => (database.texts table).filterMap (row? table)
  children := database.children.filterMap fun _ => some ()

/-- Every text of a database is the writing of a row of its table. -/
def Faithful (database : Durable) : Prop :=
  ∀ table key text, (database.texts table).get? key = some text → ∃ row, text = write table row

/-- Every text of a database says a row of its table, however it is written. -/
def Readable (database : Durable) : Prop :=
  ∀ table key text, (database.texts table).get? key = some text → ∃ row, row? table text = some row

/-- **A row that was written is read back as it was.** -/
theorem row?_write (table : Table) (row : table.Row) : row? table (write table row) = some row :=
  table.rowLayout.parse_compact row

theorem read_of_row? {table : Table} {text : String} {row : table.Row}
    (h : row? table text = some row) : read table text = .ok row := by
  rw [row?] at h
  rw [read, h]

theorem read_write (table : Table) (row : table.Row) : read table (write table row) = .ok row :=
  read_of_row? (row?_write table row)

variable {database : Durable}

/-- What was written can be read. -/
theorem Faithful.readable (h : database.Faithful) : database.Readable := by
  intro table key text hget
  obtain ⟨row, rfl⟩ := h table key text hget
  exact ⟨row, row?_write table row⟩

theorem rows_contents (table : Table) :
    database.contents.rows table = (database.texts table).filterMap (row? table) :=
  Tables.get_ofFn _ _

/-- A text of a readable database says the row of the contents under its key. -/
theorem Readable.row?_contents (h : database.Readable) {table : Table} {key text : String}
    (hget : (database.texts table).get? key = some text) :
    ∃ row, row? table text = some row ∧ database.contents.row? table key = some row := by
  obtain ⟨row, hrow⟩ := h table key text hget
  refine ⟨row, hrow, ?_⟩
  rw [Memory.row?, rows_contents, OrderedMap.get?_filterMap, hget]
  exact hrow

theorem Readable.row?_eq_none_iff (h : database.Readable) {table : Table} {key : String} :
    database.contents.row? table key = none ↔ (database.texts table).get? key = none := by
  rcases e : (database.texts table).get? key with - | text
  · simp [Memory.row?, rows_contents, OrderedMap.get?_filterMap, e]
  · obtain ⟨row, -, hrow⟩ := h.row?_contents e
    simp [hrow]

theorem Readable.contains_eq (h : database.Readable) (table : Table) (key : String) :
    (database.texts table).contains key = (database.contents.row? table key).isSome := by
  have hiff : database.contents.row? table key = none ↔ (database.texts table).get? key = none :=
    h.row?_eq_none_iff
  rw [OrderedMap.contains]
  -- both sides have the key, or neither has
  cases e : (database.texts table).get? key <;> cases e' : database.contents.row? table key <;>
    simp_all

theorem contains_children (key : String) :
    database.contents.children.contains key = database.children.contains key :=
  OrderedMap.contains_filterMap (fun _ _ _ => rfl) key

/-! ### Changes of a database -/

/-- A row that is written is a row that is put. -/
theorem contents_setTexts_insert (table : Table) (row : table.Row) :
    (database.setTexts table
      ((database.texts table).insert (table.key row) (write table row))).contents =
      database.contents.put table row := by
  refine Memory.ext_rows (fun other => ?_) rfl
  rw [rows_contents, Memory.put]
  by_cases h : other = table
  · subst h
    rw [texts, setTexts, Tables.get_set_self, Memory.rows_setRows_self,
      OrderedMap.filterMap_insert (row?_write other row), rows_contents]
  · rw [texts, setTexts, Tables.get_set_of_ne _ _ h, Memory.rows_setRows_of_ne _ _ h,
      rows_contents, texts]

theorem contents_setTexts_erase (table : Table) (key : String) :
    (database.setTexts table ((database.texts table).erase key)).contents =
      database.contents.drop table key := by
  refine Memory.ext_rows (fun other => ?_) rfl
  rw [rows_contents, Memory.drop]
  by_cases h : other = table
  · subst h
    rw [texts, setTexts, Tables.get_set_self, Memory.rows_setRows_self,
      OrderedMap.filterMap_erase, rows_contents]
  · rw [texts, setTexts, Tables.get_set_of_ne _ _ h, Memory.rows_setRows_of_ne _ _ h,
      rows_contents, texts]

theorem Faithful.setTexts_insert (h : database.Faithful) (table : Table) (key : String)
    (row : table.Row) : (database.setTexts table
      ((database.texts table).insert key (write table row))).Faithful := by
  intro other k text hget
  rw [texts, setTexts] at hget
  by_cases hother : other = table
  · subst hother
    rw [Tables.get_set_self, OrderedMap.get?_insert] at hget
    split at hget
    · exact ⟨row, (Option.some.inj hget).symm⟩
    · exact h other k text hget
  · rw [Tables.get_set_of_ne _ _ hother] at hget
    exact h other k text hget

theorem Faithful.setTexts_erase (h : database.Faithful) (table : Table) (key : String) :
    (database.setTexts table ((database.texts table).erase key)).Faithful := by
  intro other k text hget
  rw [texts, setTexts] at hget
  by_cases hother : other = table
  · subst hother
    rw [Tables.get_set_self, OrderedMap.get?_erase] at hget
    split at hget
    · cases hget
    · exact h other k text hget
  · rw [Tables.get_set_of_ne _ _ hother] at hget
    exact h other k text hget

/-! ### Calls on a database -/

/-- A call on a database and the same call in memory: they answer alike, what
the database holds after is what memory holds after, and all of it can be read. -/
structure Agrees {α : Type} (after : α × Durable) (expected : α × Memory) : Prop where
  answer : after.1 = expected.1
  contents : after.2.contents = expected.2
  faithful : after.2.Faithful

/-- A call that only looks changes nothing on either side. -/
theorem Agrees.of_answer {α : Type} {answer expected : α} (h : database.Faithful)
    (heq : answer = expected) : Agrees (answer, database) (expected, database.contents) :=
  ⟨heq, rfl, h⟩

theorem Readable.get_eq (h : database.Readable) (table : Table) (key : String) :
    database.get table key =
      (database.contents.row? table key).elim (.error (.notFound (.row table key))) .ok := by
  rw [get]
  rcases e : (database.texts table).get? key with - | text
  · rw [h.row?_eq_none_iff.mpr e]
    rfl
  · obtain ⟨row, hsays, hrow⟩ := h.row?_contents e
    rw [hrow]
    exact read_of_row? hsays

/-- A list of rows is read text by text. -/
theorem mapM_read {table : Table} {texts : List String}
    (h : ∀ text ∈ texts, ∃ row, row? table text = some row) :
    texts.mapM (read table) = .ok (texts.filterMap (row? table)) := by
  induction texts with
  | nil => rfl
  | cons text rest ih =>
    obtain ⟨row, hrow⟩ := h text List.mem_cons_self
    rw [List.mapM_cons, read_of_row? hrow, ih fun text hmem => h text (List.mem_cons_of_mem _ hmem),
      List.filterMap_cons_some hrow]
    rfl

theorem Readable.list_eq (h : database.Readable) (table : Table) :
    database.list table = .ok (database.contents.rows table).values := by
  rw [list, rows_contents, OrderedMap.values_filterMap]
  refine mapM_read fun text hmem => ?_
  obtain ⟨key, hget⟩ := OrderedMap.mem_values_iff.mp hmem
  exact h table key text hget

theorem Readable.hasOrganization_eq (h : database.Readable) (o : String) :
    database.hasOrganization o = database.contents.hasOrganization o :=
  h.contains_eq .organizations o

/-- The two ways to list children, a scan and a look at every key, agree. -/
theorem Readable.listChildren_eq (h : database.Readable) (o : String) (kind : ChildKind) :
    database.listChildren o kind = database.contents.listChildren o kind := by
  -- both look at the same keys, in the same order
  have hkeys : database.contents.children.keys = database.children.keys :=
    OrderedMap.keys_eq_of_contains contains_children
  rw [Memory.listChildren_eq, listChildren, h.hasOrganization_eq, Memory.listedIds, hkeys]

/-- **A faithful database answers every call as memory with its contents does.** -/
theorem Faithful.perform (h : database.Faithful) (call : Call) :
    Agrees (database.perform call) (database.contents.perform call) := by
  cases call with
  | add table row =>
    show Agrees (database.add table row) _
    rw [add, Memory.perform_add, h.readable.contains_eq]
    split
    · exact .of_answer h rfl
    · exact ⟨rfl, contents_setTexts_insert table row, h.setTexts_insert table _ row⟩
  | get table key =>
    rw [Memory.perform_get]
    exact .of_answer h (h.readable.get_eq table key)
  | update table row =>
    show Agrees (database.update table row) _
    rw [update, Memory.perform_update, h.readable.contains_eq]
    split
    · exact ⟨rfl, contents_setTexts_insert table row, h.setTexts_insert table _ row⟩
    · exact .of_answer h rfl
  | replace table row expected =>
    show Agrees (database.replace table row expected) _
    rw [replace, Memory.perform_replace, h.readable.get_eq]
    rcases database.contents.row? table (table.key row) with - | current
    · exact .of_answer h rfl
    · dsimp only [Option.elim]
      split
      -- the text is stored under the key of the row, and this is the key of the row written too
      · refine ⟨rfl, ?_, h.setTexts_insert table _ _⟩
        have hput := @contents_setTexts_insert database table
          (table.withRevision row (expected + 1))
        rwa [Table.key_withRevision] at hput
      · exact .of_answer h rfl
  | remove table key =>
    show Agrees (database.remove table key) _
    rw [remove, Memory.perform_remove, h.readable.contains_eq]
    split
    · exact ⟨rfl, contents_setTexts_erase table key, h.setTexts_erase table key⟩
    · exact .of_answer h rfl
  | contains table key => exact .of_answer h (congrArg Except.ok (h.readable.contains_eq table key))
  | list table => exact .of_answer h (h.readable.list_eq table)
  | addChild o kind c =>
    show Agrees (database.addChild o kind c) (database.contents.addChild o kind c)
    rw [addChild, Memory.addChild, h.readable.hasOrganization_eq, contains_children]
    split
    · exact .of_answer h rfl
    · split
      · exact .of_answer h rfl
      · refine ⟨rfl, Memory.ext_rows (fun _ => rfl) ?_, h⟩
        exact OrderedMap.filterMap_insert (f := fun _ => some ()) rfl database.children _
  | hasChild o kind c =>
    exact .of_answer h (congrArg Except.ok (contains_children _).symm)
  | listChildren o kind => exact .of_answer h (h.readable.listChildren_eq o kind)
  | removeChild o kind c =>
    show Agrees (database.removeChild o kind c) (database.contents.removeChild o kind c)
    rw [removeChild, Memory.removeChild, contains_children]
    split
    · refine ⟨rfl, Memory.ext_rows (fun _ => rfl) ?_, h⟩
      exact OrderedMap.filterMap_erase (fun _ => some ()) database.children _
    · exact .of_answer h rfl

theorem faithful_empty : empty.Faithful := by
  intro table key text hget
  rw [texts, empty, Tables.get_ofFn] at hget
  cases hget

theorem contents_empty : empty.contents = .empty := by
  refine Memory.ext_rows (fun table => ?_) rfl
  rw [rows_contents, Memory.rows_empty, texts, empty, Tables.get_ofFn]
  rfl

end Durable

/-! ### Storage of either sort -/

namespace Store

/-- What storage holds. -/
def contents : Store → Memory
  | .memory held => held
  | .durable database => database.contents

/-- All that storage holds can be read. -/
def Faithful : Store → Prop
  | .memory _ => True
  | .durable database => database.Faithful

/-- All that storage holds are rows. -/
def Readable : Store → Prop
  | .memory _ => True
  | .durable database => database.Readable

/-- **Storage of either sort answers every call as memory with its contents does.** -/
theorem Faithful.perform {store : Store} (h : store.Faithful) (call : Call) :
    (store.perform call).1 = (store.contents.perform call).1 ∧
      (store.perform call).2.contents = (store.contents.perform call).2 ∧
      (store.perform call).2.Faithful := by
  cases store with
  | memory held => exact ⟨rfl, rfl, trivial⟩
  | durable database =>
    obtain ⟨hanswer, hcontents, hfaithful⟩ := Durable.Faithful.perform h call
    exact ⟨hanswer, hcontents, hfaithful⟩

/-- A row is answered if it is in the contents. -/
theorem Faithful.get_eq_ok {store : Store} (h : store.Faithful) {table : Table} {key : String}
    {row : table.Row} :
    (store.perform (.get table key)).1 = .ok row ↔ store.contents.row? table key = some row := by
  rw [(h.perform (.get table key)).1, Memory.perform_get]
  cases store.contents.row? table key with
  | none => exact iff_of_false nofun nofun
  | some found =>
    exact (Except.ok.injEq found row).to_iff.trans (Option.some.injEq found row).to_iff.symm

/-- A key is answered to be there if it is in the contents. -/
theorem Faithful.contains_eq_ok {store : Store} (h : store.Faithful) {table : Table} {key : String}
    {there : Bool} : (store.perform (.contains table key)).1 = .ok there ↔
      (store.contents.row? table key).isSome = there := by
  rw [(h.perform (.contains table key)).1]
  exact (Except.ok.injEq (store.contents.row? table key).isSome there).to_iff

/-- A child is answered to be listed if it is in the contents. -/
theorem Faithful.hasChild_eq_ok {store : Store} (h : store.Faithful) {o c : String}
    {kind : ChildKind} {listed : Bool} : (store.perform (.hasChild o kind c)).1 = .ok listed ↔
      store.contents.hasChild o kind c = listed := by
  rw [(h.perform (.hasChild o kind c)).1]
  exact (Except.ok.injEq (store.contents.hasChild o kind c) listed).to_iff

/-- Storage of either sort with nothing in it. -/
def Fresh (store : Store) : Prop := store = .memory .empty ∨ store = .durable .empty

theorem Fresh.faithful {store : Store} (h : store.Fresh) : store.Faithful := by
  rcases h with rfl | rfl
  · trivial
  · exact Durable.faithful_empty

theorem Fresh.contents_eq {store : Store} (h : store.Fresh) : store.contents = .empty := by
  rcases h with rfl | rfl
  · rfl
  · exact Durable.contents_empty

end Store

end TenantRegistry
