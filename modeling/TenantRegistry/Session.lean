/-
TenantRegistry/Session.lean

A registry held open.

A session has storage, in memory or durable, a source of ids and a clock.
Between its operations and its storage stand the faults and the rivals that it
was told of, so that a session can show what an operation does when storage
fails under it.

To reopen a session is to lose what is in memory and to keep what is durable;
all else goes on.
-/
import TenantRegistry.Operation
import TenantRegistry.Storage.Durable
import TenantRegistry.Storage.Fault
import TenantRegistry.Storage.Memory
import TenantRegistry.Storage.Rival

namespace TenantRegistry

/-! ### Storage of either sort -/

/-- Storage in memory, or durable storage. -/
inductive Store where
  | memory (contents : Memory)
  | durable (contents : Durable)

namespace Store

/-- The answer to a call. -/
def perform (call : Call) : Store → Except StoreError call.Answer × Store
  | .memory contents =>
    let (answer, contents) := contents.perform call
    (answer, .memory contents)
  | .durable contents =>
    let (answer, contents) := contents.perform call
    (answer, .durable contents)

/-- What is left of storage when it is closed and opened again. -/
def reopened : Store → Store
  | .memory _ => .memory .empty
  | .durable contents => .durable contents

/-- Durable storage with a text put under a key, whatever the text says. -/
def withText (table : Table) (key text : String) : Store → Store
  | .memory contents => .memory contents
  | .durable contents =>
    .durable (contents.setTexts table ((contents.texts table).insert key text))

/-- The rows of a table. -/
def rows (store : Store) (table : Table) : Except StoreError (List table.Row) :=
  (store.perform (.list table)).1

/-- The ids of the children of a kind. -/
def childIds (store : Store) (organizationId : String) (kind : ChildKind) :
    Except StoreError (List String) :=
  (store.perform (.listChildren organizationId kind)).1

/-- The rows of a table as JSON, under its name, unless there are none. -/
def dumpTable (store : Store) (table : Table) : Except StoreError (Option (String × Json)) := do
  let rows ← store.rows table
  return if rows.isEmpty then none
    else some (table.name, (Layout.list table.rowLayout).encode rows)

/-- What an organization lists of a kind, under the name of the kind, unless
it lists nothing. -/
def dumpChildren (store : Store) (organizationId : String) (kind : ChildKind) :
    Except StoreError (Option (String × Json)) := do
  let childIds ← store.childIds organizationId kind
  return if childIds.isEmpty then none else some (kind.name, encode childIds)

/-- What an organization lists, under its id, unless it lists nothing. -/
def dumpOrganization (store : Store) (organizationId : String) :
    Except StoreError (Option (String × Json)) := do
  let kinds ← ChildKind.all.mapM (store.dumpChildren organizationId)
  let listed := kinds.filterMap id
  return if listed.isEmpty then none else some (organizationId, Json.ofMembers listed)

/-- All rows and all listings. -/
def dump (store : Store) : Except StoreError Json := do
  let tables ← Table.all.mapM store.dumpTable
  let organizations : List Organization ← store.rows .organizations
  let listings ← organizations.mapM fun organization =>
    store.dumpOrganization organization.organizationId
  return Json.ofMembers
    [("stores", Json.ofMembers (tables.filterMap id)),
      ("index", Json.ofMembers (listings.filterMap id))]

end Store

/-- Storage of either sort. -/
def Backend.store : Backend Store := ⟨Store.perform⟩

/-! ### Sessions -/

/-- A registry held open. -/
structure Session where
  /-- Faults, then rivals, then storage, with the ids and the clock. -/
  world : World (List Fault × List Rival × Store)

namespace Session

/-- What answers the calls of a session: a call passes the faults first and the
rivals next. -/
def backend : Backend (List Fault × List Rival × Store) :=
  Backend.store.contested.faulty

/-- A session on storage. -/
def start (store : Store) (ids : IdSource) (clock : Int64) : Session :=
  ⟨{ store := ([], [], store), ids, clock }⟩

/-- The storage of a session. -/
def store (session : Session) : Store := session.world.store.2.2

/-- A session with other storage. -/
def withStore (session : Session) (store : Store) : Session :=
  let (faults, rivals, _) := session.world.store
  ⟨{ session.world with store := (faults, rivals, store) }⟩

/-- Close a session and open it again. -/
def reopen (session : Session) : Session := session.withStore session.store.reopened

/-- A session that draws its ids from another source. -/
def withIds (session : Session) (ids : IdSource) : Session := ⟨{ session.world with ids }⟩

/-- A session at another time. -/
def withClock (session : Session) (clock : Int64) : Session := ⟨{ session.world with clock }⟩

/-- A session with one more fault, behind the others. -/
def withFault (session : Session) (fault : Fault) : Session :=
  let (faults, rivals, store) := session.world.store
  ⟨{ session.world with store := (faults ++ [fault], rivals, store) }⟩

/-- A session without faults. -/
def withoutFaults (session : Session) : Session :=
  let (_, rivals, store) := session.world.store
  ⟨{ session.world with store := ([], rivals, store) }⟩

/-- A session with one more rival, in place of any that waits on its table. -/
def withRival (session : Session) (rival : Rival) : Session :=
  let (faults, rivals, store) := session.world.store
  ⟨{ session.world with store := (faults, Rival.join rivals rival, store) }⟩

/-- Answer one access of a client. -/
def answer (session : Session) (access : Access) : Except StoreError access.Answer × Session :=
  let (answer, store) := backend.answer access session.world.store
  (answer, ⟨{ session.world with store }⟩)

/-- Make one call. -/
def perform (session : Session) (call : Call) : Except StoreError call.Answer × Session :=
  session.answer (.call call)

/-- Run a procedure. -/
def run {α : Type} (session : Session) (procedure : Procedure α) : Except RegistryError α × Session :=
  let (result, world) := procedure.runWith backend session.world
  (result, ⟨world⟩)

end Session

end TenantRegistry
