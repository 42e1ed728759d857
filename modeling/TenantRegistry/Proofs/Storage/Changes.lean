/-
TenantRegistry/Proofs/Storage/Changes.lean

What calls change in memory.

A call that succeeds makes one of four changes, or none: it puts a row under
its key, drops the row of a key, enters a child into the index, or lets a child
leave it.  `row?` and `hasChild` say what is there; each change has one
equation for each of them, so that nothing below looks into maps again.

`perform` is stated once more in these terms, one equation for each call.
An undo is a change back: `drop_put` and `leave_enter` hold where the first
change was a new one, `enter_leave` where there was something to lose.
-/
import TenantRegistry.Proofs.IndexKeys
import TenantRegistry.Proofs.Maps
import TenantRegistry.Storage.Memory

namespace TenantRegistry

namespace Table

/-- A revision is no part of a key. -/
@[simp] theorem key_withRevision (table : Table) (row : table.Row) (revision : UInt64) :
    table.key (table.withRevision row revision) = table.key row := by
  cases table <;> rfl

/-- A revision is no part of an owner. -/
@[simp] theorem owner?_withRevision (table : Table) (row : table.Row) (revision : UInt64) :
    table.owner? (table.withRevision row revision) = table.owner? row := by
  cases table <;> rfl

end Table

/-! ### Tables of a kind -/

theorem ChildKind.table_inj {kind kind' : ChildKind} (h : kind.table = kind'.table) :
    kind = kind' := by
  revert h
  cases kind <;> cases kind' <;> decide

theorem ChildKind.table_ne_organizations (kind : ChildKind) : kind.table ≠ .organizations := by
  cases kind <;> decide

theorem ChildKind.table_ne_snapshots (kind : ChildKind) : kind.table ≠ .snapshots := by
  cases kind <;> decide

theorem ChildKind.table_ne_parameters (kind : ChildKind) : kind.table ≠ .parameters := by
  cases kind <;> decide

/-- A table in which no child stands but an instance. -/
def Table.Aside (table : Table) : Prop :=
  ∀ kind : ChildKind, kind ≠ .appInstance → table ≠ kind.table

namespace Table

theorem aside_organizations : Aside .organizations :=
  fun kind _ => kind.table_ne_organizations.symm

theorem aside_instances : Aside .instances :=
  fun _ hkind heq => hkind (ChildKind.table_inj heq.symm)

theorem aside_snapshots : Aside .snapshots :=
  fun kind _ => kind.table_ne_snapshots.symm

theorem aside_parameters : Aside .parameters :=
  fun kind _ => kind.table_ne_parameters.symm

end Table

namespace Memory

variable (memory : Memory)

/-! ### Rows of tables -/

@[simp] theorem rows_setRows_self (table : Table) (rows : OrderedMap table.Row) :
    (memory.setRows table rows).rows table = rows :=
  Tables.get_set_self _ _ _

theorem rows_setRows_of_ne {table other : Table} (rows : OrderedMap table.Row)
    (h : other ≠ table) : (memory.setRows table rows).rows other = memory.rows other :=
  Tables.get_set_of_ne _ _ h

@[simp] theorem children_setRows (table : Table) (rows : OrderedMap table.Row) :
    (memory.setRows table rows).children = memory.children := rfl

variable {memory} in
/-- Two states of memory with the same rows and the same index are the same. -/
theorem ext_rows {other : Memory} (hrows : ∀ table, memory.rows table = other.rows table)
    (hchildren : memory.children = other.children) : memory = other := by
  obtain ⟨tables, children⟩ := memory
  obtain ⟨tables', children'⟩ := other
  obtain rfl : tables = tables' := Tables.ext_get hrows
  obtain rfl : children = children' := hchildren
  rfl

@[simp] theorem rows_empty (table : Table) : empty.rows table = .empty :=
  Tables.get_ofFn _ _

/-! ### Changes -/

/-- The row under a key. -/
def row? (table : Table) (key : String) : Option table.Row := (memory.rows table).get? key

/-- Memory with a row put under its key. -/
def put (table : Table) (row : table.Row) : Memory :=
  memory.setRows table ((memory.rows table).insert (table.key row) row)

/-- Memory without the row of a key. -/
def drop (table : Table) (key : String) : Memory :=
  memory.setRows table ((memory.rows table).erase key)

/-- Memory with a child in the index. -/
def enter (organizationId : String) (kind : ChildKind) (childId : String) : Memory :=
  { memory with
    children := memory.children.insert (IndexKey.entry organizationId kind childId) () }

/-- Memory without a child in the index. -/
def leave (organizationId : String) (kind : ChildKind) (childId : String) : Memory :=
  { memory with children := memory.children.erase (IndexKey.entry organizationId kind childId) }

/-! ### What is there after a change -/

@[simp] theorem row?_empty (table : Table) (key : String) : empty.row? table key = none := by
  simp [row?]

theorem row?_put_self (table : Table) (row : table.Row) (key : String) :
    (memory.put table row).row? table key =
      if key = table.key row then some row else memory.row? table key := by
  rw [row?, put, rows_setRows_self, OrderedMap.get?_insert, row?]

variable {memory} in
theorem row?_put_of_key_eq {table : Table} {row : table.Row} {key : String}
    (h : table.key row = key) : (memory.put table row).row? table key = some row := by
  rw [row?_put_self, if_pos h.symm]

theorem row?_put_of_ne {table other : Table} (row : table.Row) (h : other ≠ table) (key : String) :
    (memory.put table row).row? other key = memory.row? other key := by
  rw [row?, put, rows_setRows_of_ne _ _ h, row?]

theorem row?_drop_self (table : Table) (dropped key : String) :
    (memory.drop table dropped).row? table key =
      if key = dropped then none else memory.row? table key := by
  rw [row?, drop, rows_setRows_self, OrderedMap.get?_erase, row?]

theorem row?_drop_of_ne {table other : Table} (dropped : String) (h : other ≠ table)
    (key : String) : (memory.drop table dropped).row? other key = memory.row? other key := by
  rw [row?, drop, rows_setRows_of_ne _ _ h, row?]

theorem row?_put_of_key_ne {table other : Table} {row : table.Row} {key : String}
    (h : key ≠ table.key row) : (memory.put table row).row? other key = memory.row? other key := by
  by_cases hsame : other = table
  · subst hsame
    rw [row?_put_self, if_neg h]
  · exact memory.row?_put_of_ne row hsame key

theorem row?_drop_of_key_ne {table other : Table} {dropped key : String} (h : key ≠ dropped) :
    (memory.drop table dropped).row? other key = memory.row? other key := by
  by_cases hsame : other = table
  · subst hsame
    rw [row?_drop_self, if_neg h]
  · exact memory.row?_drop_of_ne dropped hsame key

variable {memory} in
/-- A row that a removal leaves was there before. -/
theorem row?_of_drop {table other : Table} {dropped key : String} {row : other.Row}
    (h : (memory.drop table dropped).row? other key = some row) :
    memory.row? other key = some row := by
  by_cases hsame : other = table
  · subst hsame
    rw [row?_drop_self] at h
    split at h
    · cases h
    · exact h
  · rwa [row?_drop_of_ne _ _ hsame] at h

@[simp] theorem row?_enter (o : String) (kind : ChildKind) (c : String) (table : Table)
    (key : String) : (memory.enter o kind c).row? table key = memory.row? table key := rfl

@[simp] theorem row?_leave (o : String) (kind : ChildKind) (c : String) (table : Table)
    (key : String) : (memory.leave o kind c).row? table key = memory.row? table key := rfl

@[simp] theorem children_put (table : Table) (row : table.Row) :
    (memory.put table row).children = memory.children := rfl

@[simp] theorem children_drop (table : Table) (key : String) :
    (memory.drop table key).children = memory.children := rfl

theorem contains_children_enter (o : String) (kind : ChildKind) (c key : String) :
    (memory.enter o kind c).children.contains key =
      (decide (key = IndexKey.entry o kind c) || memory.children.contains key) :=
  OrderedMap.contains_insert _ _ _ _

theorem contains_children_leave (o : String) (kind : ChildKind) (c key : String) :
    (memory.leave o kind c).children.contains key =
      (decide (key ≠ IndexKey.entry o kind c) && memory.children.contains key) :=
  OrderedMap.contains_erase _ _ _

variable {memory} in
/-- What is listed after a child entered the index. -/
theorem hasChild_enter_iff {o o' c c' : String} {kind kind' : ChildKind} :
    (memory.enter o kind c).hasChild o' kind' c' = true ↔
      IndexKey.entry o' kind' c' = IndexKey.entry o kind c ∨
        memory.hasChild o' kind' c' = true := by
  rw [hasChild, contains_children_enter, Bool.or_eq_true, decide_eq_true_eq]
  rfl

variable {memory} in
/-- What is listed after a child with a plain key entered the index is that child, or was listed
before. -/
theorem hasChild_of_enter {o o' c c' : String} {kind kind' : ChildKind} (ho : Plain o)
    (hc : Plain c) (h : (memory.enter o kind c).hasChild o' kind' c' = true) :
    (o' = o ∧ kind' = kind ∧ c' = c) ∨ memory.hasChild o' kind' c' = true := by
  refine (hasChild_enter_iff.mp h).imp_left fun heq => ?_
  obtain ⟨rfl, rfl, rfl⟩ := IndexKey.eq_of_entry_eq ho hc heq.symm
  exact ⟨rfl, rfl, rfl⟩

variable {memory} in
/-- What is listed after a child left the index. -/
theorem hasChild_leave_iff {o o' c c' : String} {kind kind' : ChildKind} :
    (memory.leave o kind c).hasChild o' kind' c' = true ↔
      IndexKey.entry o' kind' c' ≠ IndexKey.entry o kind c ∧
        memory.hasChild o' kind' c' = true := by
  rw [hasChild, contains_children_leave, Bool.and_eq_true, decide_eq_true_eq]
  rfl

/-! ### Changes back -/

variable {memory}

/-- Dropping a row that is not there changes nothing. -/
theorem drop_of_absent {table : Table} {key : String} (h : memory.row? table key = none) :
    memory.drop table key = memory := by
  refine ext_rows (fun other => ?_) rfl
  rw [drop]
  by_cases hother : other = table
  · subst hother
    rw [rows_setRows_self]
    exact OrderedMap.erase_of_absent h
  · rw [rows_setRows_of_ne _ _ hother]

/-- A row that is dropped may as well not have been put. -/
theorem drop_put_self (memory : Memory) (table : Table) (row : table.Row) :
    (memory.put table row).drop table (table.key row) = memory.drop table (table.key row) := by
  refine ext_rows (fun other => ?_) rfl
  rw [drop, drop]
  by_cases hother : other = table
  · subst hother
    rw [rows_setRows_self, rows_setRows_self, put, rows_setRows_self]
    exact OrderedMap.erase_insert_self _ _ _
  · rw [rows_setRows_of_ne _ _ hother, rows_setRows_of_ne _ _ hother, put,
      rows_setRows_of_ne _ _ hother]

/-- A row that was put under a free key is dropped without a trace. -/
theorem drop_put {table : Table} {row : table.Row} (h : memory.row? table (table.key row) = none) :
    (memory.put table row).drop table (table.key row) = memory := by
  rw [drop_put_self, drop_of_absent h]

/-- A child that was new in the index leaves it without a trace. -/
theorem leave_enter {o : String} {kind : ChildKind} {c : String}
    (h : memory.hasChild o kind c = false) : (memory.enter o kind c).leave o kind c = memory := by
  refine ext_rows (fun _ => rfl) ?_
  exact OrderedMap.erase_insert () (OrderedMap.contains_eq_false_iff.mp h)

/-- A child that left the index enters it again as if it had not. -/
theorem enter_leave {o : String} {kind : ChildKind} {c : String}
    (h : memory.hasChild o kind c = true) : (memory.leave o kind c).enter o kind c = memory := by
  refine ext_rows (fun _ => rfl) ?_
  obtain ⟨⟨⟩, hget⟩ := OrderedMap.contains_iff.mp h
  exact OrderedMap.insert_erase hget

/-! ### Answers of calls, in terms of changes -/

variable (memory)

theorem perform_add (table : Table) (row : table.Row) :
    memory.perform (.add table row) =
      if (memory.row? table (table.key row)).isSome then
        (.error (.alreadyExists (.row table (table.key row))), memory)
      else (.ok (), memory.put table row) := rfl

theorem perform_get (table : Table) (key : String) :
    memory.perform (.get table key) =
      ((memory.row? table key).elim (.error (.notFound (.row table key))) .ok, memory) := by
  show (memory.get table key, memory) = _
  rw [get, row?]
  cases (memory.rows table).get? key <;> rfl

theorem perform_update (table : Table) (row : table.Row) :
    memory.perform (.update table row) =
      if (memory.row? table (table.key row)).isSome then (.ok (), memory.put table row)
      else (.error (.notFound (.row table (table.key row))), memory) := rfl

theorem perform_replace (table : Table) (row : table.Row) (expected : UInt64) :
    memory.perform (.replace table row expected) =
      match memory.row? table (table.key row) with
      | none => (.error (.notFound (.row table (table.key row))), memory)
      | some current =>
        if table.revision current = expected then
          (.ok (table.withRevision row (expected + 1)),
            memory.put table (table.withRevision row (expected + 1)))
        else
          (.error (.conflict (table.key row) expected (table.revision current)), memory) := by
  rw [put, Table.key_withRevision]
  rfl

theorem perform_remove (table : Table) (key : String) :
    memory.perform (.remove table key) =
      if (memory.row? table key).isSome then (.ok (), memory.drop table key)
      else (.error (.notFound (.row table key)), memory) := rfl

theorem perform_addChild (o : String) (kind : ChildKind) (c : String) :
    memory.perform (.addChild o kind c) =
      if (memory.row? .organizations o).isNone then
        (.error (.notFound (.organization o)), memory)
      else if memory.hasChild o kind c then
        (.error (.alreadyExists (.child kind c o)), memory)
      else (.ok (), memory.enter o kind c) := by
  show memory.addChild o kind c = _
  rw [addChild, hasOrganization, OrderedMap.contains, Option.not_isSome]
  rfl

theorem perform_removeChild (o : String) (kind : ChildKind) (c : String) :
    memory.perform (.removeChild o kind c) =
      if memory.hasChild o kind c then (.ok (), memory.leave o kind c)
      else (.error (.notFound (.child kind c o)), memory) := rfl

end Memory

/-- What a call puts into storage, where it is accepted. -/
inductive Call.Puts : Call → (table : Table) → table.Row → Prop
  | add {table : Table} (row : table.Row) : Puts (.add table row) table row
  | update {table : Table} (row : table.Row) : Puts (.update table row) table row
  | replace {table : Table} (row : table.Row) (expected revision : UInt64) :
      Puts (.replace table row expected) table (table.withRevision row revision)

namespace Memory

variable (memory : Memory)

variable {memory} in
/-- **A call makes one change, or none.** -/
theorem perform_induction {motive : Memory → Prop} {call : Call} (same : motive memory)
    (put : ∀ {table row}, call.Puts table row → motive (memory.put table row))
    (drop : ∀ {table key}, call = .remove table key → motive (memory.drop table key))
    (enter : ∀ {o kind c}, call = .addChild o kind c → motive (memory.enter o kind c))
    (leave : ∀ {o kind c}, call = .removeChild o kind c → motive (memory.leave o kind c)) :
    motive (memory.perform call).2 := by
  cases call with
  | get | contains | list | hasChild | listChildren => exact same
  | add table row =>
    rw [perform_add]
    split
    · exact same
    · exact put (.add row)
  | update table row =>
    rw [perform_update]
    split
    · exact put (.update row)
    · exact same
  | replace table row expected =>
    rw [perform_replace]
    rcases memory.row? table (table.key row) with - | current
    · exact same
    · dsimp only
      split
      · exact put (.replace row expected _)
      · exact same
  | remove table key =>
    rw [perform_remove]
    split
    · exact drop rfl
    · exact same
  | addChild o kind c =>
    rw [perform_addChild]
    split
    · exact same
    · split
      · exact same
      · exact enter rfl
  | removeChild o kind c =>
    rw [perform_removeChild]
    split
    · exact leave rfl
    · exact same

/-! ### Listings of children -/

/-- The ids that the index lists, by a look at every key. -/
def listedIds (o : String) (kind : ChildKind) : List String :=
  memory.children.keys.filterMap (IndexKey.afterStem? (IndexKey.stem o kind))

theorem mem_listedIds_iff {o : String} {kind : ChildKind} {c : String} :
    c ∈ memory.listedIds o kind ↔ memory.hasChild o kind c = true := by
  simp only [listedIds, List.mem_filterMap, IndexKey.afterStem?_stem_eq_some_iff, exists_eq_right,
    OrderedMap.mem_keys_iff]
  rfl

/-- Ids are listed in the order of their keys. -/
theorem pairwise_listedIds (o : String) (kind : ChildKind) :
    (memory.listedIds o kind).Pairwise (· < ·) := by
  refine memory.children.pairwise_keys.filterMap _ fun key key' hlt c hc c' hc' => ?_
  rw [IndexKey.afterStem?_stem_eq_some_iff] at hc hc'
  subst hc hc'
  exact IndexKey.lt_of_entry_lt hlt

/-- A listing of children is a look at every key, although it scans a part of them. -/
theorem listChildren_eq (o : String) (kind : ChildKind) :
    memory.listChildren o kind =
      if memory.hasOrganization o then .ok (memory.listedIds o kind)
      else .error (.notFound (.organization o)) := by
  -- the scan starts at the stem and passes over all keys below
  have hscan : (memory.children.entriesFrom (IndexKey.stem o kind)).map (·.1) =
      memory.children.keys.dropWhile (· < IndexKey.stem o kind) :=
    OrderedMap.map_fst_entriesFrom _ _
  rw [listChildren, hscan, listedIds]
  dsimp only
  rw [IndexKey.scan_eq_filterMap _ memory.children.pairwise_keys]

end Memory

end TenantRegistry
