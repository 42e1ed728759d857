/-
TenantRegistry/Storage/Rival.lean

Writers that get in between.

A rival waits for the next replacement of a row of its table.  Just before it
is made, the rival reads the same row and replaces it under its own revision,
or deletes it; then the replacement that it waited for is made.  A rival acts
once.  If it fails, its failure is that of the replacement.  At most one rival
waits on each table.
-/
import TenantRegistry.Storage.Call

namespace TenantRegistry

/-- A competing writer. -/
structure Rival where
  table : Table
  /-- What it makes of the row; without a change it deletes the row. -/
  change : Option (table.Row → table.Row)

namespace Rival

/-- A rival that sets the status of clusters. -/
def onClusters (status : ClusterStatus) : Rival :=
  ⟨.clusters, some fun cluster => { cluster with status }⟩

/-- A rival that sets the status of instances. -/
def onInstances (status : ApplicationStatus) : Rival :=
  ⟨.instances, some fun app => { app with status }⟩

/-- A rival that deletes rows of a table. -/
def removing (table : Table) : Rival := ⟨table, none⟩

variable {σ : Type}

/-- What a rival does to the row under a key. -/
def act (backend : Backend σ) (rival : Rival) (key : String) (store : σ) :
    Except StoreError Unit × σ :=
  match rival.change with
  | none => backend.perform (.remove rival.table key) store
  | some change =>
    match backend.perform (.get rival.table key) store with
    | (.error cause, store) => (.error cause, store)
    | (.ok row, store) =>
      let (answer, store) :=
        backend.perform (.replace rival.table (change row) (rival.table.revision row)) store
      (answer.map fun _ => (), store)

/-- The rivals with one more, in place of any that waits on its table. -/
def join (rivals : List Rival) (rival : Rival) : List Rival :=
  rivals.filter (fun other => other.table ≠ rival.table) ++ [rival]

end Rival

/-- The row that a call replaces, by its table and its key. -/
def Call.replaced? : Call → Option (Table × String)
  | .replace table row _ => some (table, table.key row)
  | _ => none

/-- The rival that waits for a call, and the key of the row that it is about. -/
def Rival.of? (rivals : List Rival) (call : Call) : Option (Rival × String) := do
  let (table, key) ← call.replaced?
  let rival ← rivals.find? fun rival => rival.table = table
  some (rival, key)

/-- A backend with rivals, each until it acted. -/
def Backend.contested {σ : Type} (backend : Backend σ) : Backend (List Rival × σ) where
  perform call state :=
    match Rival.of? state.1 call with
    | none =>
      let (answer, store) := backend.perform call state.2
      (answer, (state.1, store))
    | some (rival, key) =>
      let rivals := state.1.filter fun other => other.table ≠ rival.table
      match rival.act backend key state.2 with
      -- the rival fails, and the call is not made
      | (.error cause, store) => (.error cause, (rivals, store))
      | (.ok (), store) =>
        let (answer, store) := backend.perform call store
        (answer, (rivals, store))

end TenantRegistry
