/-
TenantRegistry/Storage/Durable.lean

Storage that outlives the program: rows as JSON text.

A table maps keys to the text of rows.  A row is written when it is stored
and read whenever it is handed out, so a text that is no row of its table
shows as an error of the calls that hand it out; the others look at keys
alone.  The index maps keys to the ids of children, and to list the children
of one kind is to look at every key.

A database is kept in a file as one JSON object, with a member for each table
and one for the index (`toFile`, `ofFile?`).
-/
import TenantRegistry.Json.Printer
import TenantRegistry.Json.Reader
import TenantRegistry.Storage.Call

namespace TenantRegistry

/-- Tables of written rows, and the index. -/
structure Durable where
  tables : Tables fun _ => OrderedMap String
  children : OrderedMap String

namespace Durable

/-- A database with nothing in it. -/
def empty : Durable := ⟨.ofFn fun _ => .empty, .empty⟩

instance : Inhabited Durable := ⟨empty⟩

/-- The written rows of a table. -/
def texts (database : Durable) (table : Table) : OrderedMap String := database.tables.get table

/-- Other written rows for a table. -/
def setTexts (database : Durable) (table : Table) (texts : OrderedMap String) : Durable :=
  { database with tables := database.tables.set table texts }

/-- The text of a row. -/
def write (table : Table) (row : table.Row) : String := (table.rowLayout.encode row).toCompact

/-- The row that a text stands for. -/
def read (table : Table) (text : String) : Except StoreError table.Row :=
  match (Json.parse text).bind table.rowLayout.decode with
  | some row => .ok row
  | none => .error (.deserialize s!"no row of {table.name}")

/-- Whether an organization is stored. -/
def hasOrganization (database : Durable) (organizationId : String) : Bool :=
  (database.texts .organizations).contains organizationId

/-! ### Tables -/

/-- Store a new row. -/
def add (database : Durable) (table : Table) (row : table.Row) :
    Except StoreError Unit × Durable :=
  let key := table.key row
  if (database.texts table).contains key then (.error (.alreadyExists (.row table key)), database)
  else (.ok (), database.setTexts table ((database.texts table).insert key (write table row)))

/-- Fetch a row. -/
def get (database : Durable) (table : Table) (key : String) : Except StoreError table.Row :=
  match (database.texts table).get? key with
  | some text => read table text
  | none => .error (.notFound (.row table key))

/-- Write over a row. -/
def update (database : Durable) (table : Table) (row : table.Row) :
    Except StoreError Unit × Durable :=
  let key := table.key row
  if (database.texts table).contains key then
    (.ok (), database.setTexts table ((database.texts table).insert key (write table row)))
  else (.error (.notFound (.row table key)), database)

/-- Write over a row of the expected revision. -/
def replace (database : Durable) (table : Table) (row : table.Row) (expected : UInt64) :
    Except StoreError table.Row × Durable :=
  let key := table.key row
  match database.get table key with
  | .error cause => (.error cause, database)
  | .ok current =>
    let found := table.revision current
    if found = expected then
      let stored := table.withRevision row (expected + 1)
      (.ok stored,
        database.setTexts table ((database.texts table).insert key (write table stored)))
    else (.error (.conflict key expected found), database)

/-- Delete a row. -/
def remove (database : Durable) (table : Table) (key : String) :
    Except StoreError Unit × Durable :=
  if (database.texts table).contains key then
    (.ok (), database.setTexts table ((database.texts table).erase key))
  else (.error (.notFound (.row table key)), database)

/-- Fetch all rows, up to the first text that is no row. -/
def list (database : Durable) (table : Table) : Except StoreError (List table.Row) :=
  (database.texts table).values.mapM (read table)

/-! ### Index -/

/-- Enter a child into the index. -/
def addChild (database : Durable) (organizationId : String) (kind : ChildKind)
    (childId : String) : Except StoreError Unit × Durable :=
  let key := IndexKey.entry organizationId kind childId
  if !database.hasOrganization organizationId then
    (.error (.notFound (.organization organizationId)), database)
  else if database.children.contains key then
    (.error (.alreadyExists (.child kind childId organizationId)), database)
  else (.ok (), { database with children := database.children.insert key childId })

/-- Whether a child is in the index. -/
def hasChild (database : Durable) (organizationId : String) (kind : ChildKind)
    (childId : String) : Bool :=
  database.children.contains (IndexKey.entry organizationId kind childId)

/-- The ids of the children of a kind, by a look at every key. -/
def listChildren (database : Durable) (organizationId : String) (kind : ChildKind) :
    Except StoreError (List String) :=
  if database.hasOrganization organizationId then
    .ok (database.children.keys.filterMap (IndexKey.afterStem? (IndexKey.stem organizationId kind)))
  else .error (.notFound (.organization organizationId))

/-- Delete a child from the index. -/
def removeChild (database : Durable) (organizationId : String) (kind : ChildKind)
    (childId : String) : Except StoreError Unit × Durable :=
  let key := IndexKey.entry organizationId kind childId
  if database.children.contains key then
    (.ok (), { database with children := database.children.erase key })
  else (.error (.notFound (.child kind childId organizationId)), database)

/-! ### Answering calls -/

/-- The answer to a call. -/
def perform : (call : Call) → Durable → Except StoreError call.Answer × Durable
  | .add table row, database => database.add table row
  | .get table key, database => (database.get table key, database)
  | .update table row, database => database.update table row
  | .replace table row expected, database => database.replace table row expected
  | .remove table key, database => database.remove table key
  | .contains table key, database => (.ok ((database.texts table).contains key), database)
  | .list table, database => (database.list table, database)
  | .addChild organizationId kind childId, database =>
    database.addChild organizationId kind childId
  | .hasChild organizationId kind childId, database =>
    (.ok (database.hasChild organizationId kind childId), database)
  | .listChildren organizationId kind, database =>
    (database.listChildren organizationId kind, database)
  | .removeChild organizationId kind childId, database =>
    database.removeChild organizationId kind childId

/-! ### Database files -/

/-- The name of the index in a database file. -/
def indexName : String := "organization_children"

/-- The contents of a database file. -/
def toFile (database : Durable) : String :=
  let tables := Table.all.map fun table =>
    (table.name, Layout.labels.encode (database.texts table))
  (Json.ofMembers (tables ++ [(indexName, Layout.labels.encode database.children)])).toCompact

/-- The database in a file.  An empty file is a database with nothing in it;
any other text has to name every table and the index. -/
def ofFile? (contents : String) : Option Durable :=
  if contents.isEmpty then some empty
  else do
    let json ← Json.parse contents
    let children ← (json.member? indexName).bind Layout.labels.decode
    let databases ← Table.all.foldlM (fun (database : Durable) table => do
      let texts ← (json.member? table.name).bind Layout.labels.decode
      some (database.setTexts table texts)) empty
    some { databases with children }

end Durable

/-- Storage that outlives the program. -/
def Backend.durable : Backend Durable := ⟨Durable.perform⟩

end TenantRegistry
