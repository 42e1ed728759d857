/-
TenantRegistry/Ownership.lean

What organizations own through the index.

A row of one of the six owned kinds is stored in its table and entered into
the index under its organization.  No call does both, so the order of the two
matters.

* To add a row is to store it and then to enter it; a row that cannot be
  entered is deleted again.
* To remove a row is to delete it and then its entry, with no way back.
* To read a row is to look into the index first.  An entry whose row has
  another owner is an inconsistency, and not a row that is missing.

A listing goes through the index.  An entry without a row is skipped.
-/
import TenantRegistry.Compensation
import TenantRegistry.Program

namespace TenantRegistry

open Procedure

/-- Fail unless an organization is stored. -/
def requireOrganization (organizationId : String) : Procedure Unit := do
  if ← perform (.contains .organizations organizationId) then return ()
  else throw (.notFound (.organization organizationId))

/-- The rows of a table with the given owner, by a look at the whole table. -/
def listByOwner (table : Table) (owner : String) : Procedure (List table.Row) := do
  let rows : List table.Row ← perform (.list table)
  return rows.filter fun row => table.owner? row = some owner

namespace ChildKind

variable (kind : ChildKind) (organizationId : String)

/-- Store a row and enter it into the index. -/
def add (row : kind.Row) : Procedure Unit :=
  let key := kind.table.key row
  ExceptT.mk (dualWrite
    (perform (.add kind.table row)).run
    (perform (.remove kind.table key)).run
    (perform (.addChild organizationId kind key)).run)

/-- Fail unless the index lists a child. -/
def require (childId : String) : Procedure Unit := do
  if ← perform (.hasChild organizationId kind childId) then return ()
  else throw (.notFound (.child kind childId organizationId))

/-- Fail unless a row belongs to the organization that lists it. -/
def checkOwner (row : kind.Row) : Procedure Unit :=
  let owner := kind.table.owner? row
  if owner = some organizationId then return ()
  else throw (.internal (.foreignOwner kind (kind.table.key row) organizationId owner))

/-- Fetch a row that an organization owns. -/
def get (childId : String) : Procedure kind.Row := do
  kind.require organizationId childId
  let row : kind.Row ← perform (.get kind.table childId)
  kind.checkOwner organizationId row
  return row

/-- Fetch the rows of the given ids, without those that are missing. -/
def getAll : List String → Procedure (List kind.Row)
  | [] => return []
  | childId :: rest => do
    match ← attempt (.get kind.table childId) with
    | .ok row =>
      kind.checkOwner organizationId row
      return row :: (← getAll rest)
    -- an entry without a row is skipped, and any other error ends the listing
    | .error (.notFound _) => getAll rest
    | .error cause => throw (.ofStore cause)

/-- Fetch the rows that an organization lists, in the order of their ids. -/
def list : Procedure (List kind.Row) := do
  let childIds : List String ← perform (.listChildren organizationId kind)
  kind.getAll organizationId childIds

/-- Delete a row and its entry in the index. -/
def remove (childId : String) : Procedure Unit := do
  kind.require organizationId childId
  -- whose row it is that goes is not looked at
  perform (.remove kind.table childId)
  perform (.removeChild organizationId kind childId)

end ChildKind

end TenantRegistry
