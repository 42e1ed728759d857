/-
TenantRegistry/Storage/Memory.lean

Storage in memory: rows as values, index entries as keys.

Rows are in ordered maps, so that listing a table is listing its map.  The
index is one ordered set of keys; to list the children of one kind is to scan
it from the stem of their keys on, for as long as keys start with that stem.
-/
import TenantRegistry.Storage.Call

namespace TenantRegistry

/-- Tables of rows, and the keys of the index. -/
structure Memory where
  tables : Tables fun table => OrderedMap table.Row
  children : OrderedMap Unit

namespace Memory

/-- Storage with nothing in it. -/
def empty : Memory := ⟨.ofFn fun _ => .empty, .empty⟩

instance : Inhabited Memory := ⟨empty⟩

/-- The rows of a table. -/
def rows (memory : Memory) (table : Table) : OrderedMap table.Row := memory.tables.get table

/-- Other rows for a table. -/
def setRows (memory : Memory) (table : Table) (rows : OrderedMap table.Row) : Memory :=
  { memory with tables := memory.tables.set table rows }

/-- Whether an organization is stored. -/
def hasOrganization (memory : Memory) (organizationId : String) : Bool :=
  (memory.rows .organizations).contains organizationId

/-! ### Tables -/

/-- Store a new row. -/
def add (memory : Memory) (table : Table) (row : table.Row) : Except StoreError Unit × Memory :=
  let key := table.key row
  if (memory.rows table).contains key then (.error (.alreadyExists (.row table key)), memory)
  else (.ok (), memory.setRows table ((memory.rows table).insert key row))

/-- Fetch a row. -/
def get (memory : Memory) (table : Table) (key : String) : Except StoreError table.Row :=
  match (memory.rows table).get? key with
  | some row => .ok row
  | none => .error (.notFound (.row table key))

/-- Write over a row. -/
def update (memory : Memory) (table : Table) (row : table.Row) : Except StoreError Unit × Memory :=
  let key := table.key row
  if (memory.rows table).contains key then
    (.ok (), memory.setRows table ((memory.rows table).insert key row))
  else (.error (.notFound (.row table key)), memory)

/-- Write over a row of the expected revision. -/
def replace (memory : Memory) (table : Table) (row : table.Row) (expected : UInt64) :
    Except StoreError table.Row × Memory :=
  let key := table.key row
  match (memory.rows table).get? key with
  | none => (.error (.notFound (.row table key)), memory)
  | some current =>
    let found := table.revision current
    if found = expected then
      let stored := table.withRevision row (expected + 1)
      (.ok stored, memory.setRows table ((memory.rows table).insert key stored))
    else (.error (.conflict key expected found), memory)

/-- Delete a row. -/
def remove (memory : Memory) (table : Table) (key : String) : Except StoreError Unit × Memory :=
  if (memory.rows table).contains key then
    (.ok (), memory.setRows table ((memory.rows table).erase key))
  else (.error (.notFound (.row table key)), memory)

/-! ### Index -/

/-- Enter a child into the index. -/
def addChild (memory : Memory) (organizationId : String) (kind : ChildKind) (childId : String) :
    Except StoreError Unit × Memory :=
  let key := IndexKey.entry organizationId kind childId
  if !memory.hasOrganization organizationId then
    (.error (.notFound (.organization organizationId)), memory)
  else if memory.children.contains key then
    (.error (.alreadyExists (.child kind childId organizationId)), memory)
  else (.ok (), { memory with children := memory.children.insert key () })

/-- Whether a child is in the index. -/
def hasChild (memory : Memory) (organizationId : String) (kind : ChildKind) (childId : String) :
    Bool :=
  memory.children.contains (IndexKey.entry organizationId kind childId)

/-- The ids of the children of a kind, by a scan that starts at their stem and
ends at the first key without it. -/
def listChildren (memory : Memory) (organizationId : String) (kind : ChildKind) :
    Except StoreError (List String) :=
  let stem := IndexKey.stem organizationId kind
  if memory.hasOrganization organizationId then
    -- keys with one stem stand next to each other
    let scan := (memory.children.entriesFrom stem).map (·.1)
    .ok ((scan.map (IndexKey.afterStem? stem)).takeWhile Option.isSome |>.filterMap id)
  else .error (.notFound (.organization organizationId))

/-- Delete a child from the index. -/
def removeChild (memory : Memory) (organizationId : String) (kind : ChildKind) (childId : String) :
    Except StoreError Unit × Memory :=
  let key := IndexKey.entry organizationId kind childId
  if memory.children.contains key then
    (.ok (), { memory with children := memory.children.erase key })
  else (.error (.notFound (.child kind childId organizationId)), memory)

/-! ### Answering calls -/

/-- The answer to a call. -/
def perform : (call : Call) → Memory → Except StoreError call.Answer × Memory
  | .add table row, memory => memory.add table row
  | .get table key, memory => (memory.get table key, memory)
  | .update table row, memory => memory.update table row
  | .replace table row expected, memory => memory.replace table row expected
  | .remove table key, memory => memory.remove table key
  | .contains table key, memory => (.ok ((memory.rows table).contains key), memory)
  | .list table, memory => (.ok (memory.rows table).values, memory)
  | .addChild organizationId kind childId, memory => memory.addChild organizationId kind childId
  | .hasChild organizationId kind childId, memory =>
    (.ok (memory.hasChild organizationId kind childId), memory)
  | .listChildren organizationId kind, memory => (memory.listChildren organizationId kind, memory)
  | .removeChild organizationId kind childId, memory =>
    memory.removeChild organizationId kind childId

end Memory

/-- Storage in memory. -/
def Backend.memory : Backend Memory := ⟨Memory.perform⟩

end TenantRegistry
