/-
TenantRegistry/Storage/Call.lean

Calls to storage, and what answers them.

Storage is fourteen tables and the index of what organizations own.  A
`Call` is one use of it, as data; `Call.Answer` is the type of what it
gives back when it succeeds.  A `Backend` answers calls on a state of its
own.  No call spans two writes.  An `Access` is a call, or a listing of which
only the rows of one owner are asked for.

An entry of the index is keyed by one text, the organization, the kind and
the id of the child with `/` between them.  `IndexKey.entry` builds it and
`IndexKey.stem` is what all entries of one organization and kind start with.
-/
import TenantRegistry.Error

namespace TenantRegistry

/-! ### Keys of the index -/

namespace IndexKey

/-- What the keys of all children of one kind in one organization start with. -/
def stem (organizationId : String) (kind : ChildKind) : String :=
  organizationId ++ "/" ++ kind.name ++ "/"

/-- The key of one child. -/
def entry (organizationId : String) (kind : ChildKind) (childId : String) : String :=
  stem organizationId kind ++ childId

/-- What stands after a stem, if the text starts with it. -/
def afterStem? (stem text : String) : Option String :=
  if stem.toList.isPrefixOf text.toList then some (String.ofList (text.toList.drop stem.length))
  else none

end IndexKey

/-! ### Calls -/

/-- One use of storage. -/
inductive Call where
  /-- Store a new row. -/
  | add (table : Table) (row : table.Row)
  /-- Fetch a row. -/
  | get (table : Table) (key : String)
  /-- Write over a row. -/
  | update (table : Table) (row : table.Row)
  /-- Write over a row if it still has the expected revision, which then goes up by one. -/
  | replace (table : Table) (row : table.Row) (expected : UInt64)
  /-- Delete a row. -/
  | remove (table : Table) (key : String)
  /-- Ask whether a row is there. -/
  | contains (table : Table) (key : String)
  /-- Fetch all rows, in key order. -/
  | list (table : Table)
  /-- Enter a child into the index. -/
  | addChild (organizationId : String) (kind : ChildKind) (childId : String)
  /-- Ask whether a child is in the index. -/
  | hasChild (organizationId : String) (kind : ChildKind) (childId : String)
  /-- Fetch the ids of all children of a kind, in order. -/
  | listChildren (organizationId : String) (kind : ChildKind)
  /-- Delete a child from the index. -/
  | removeChild (organizationId : String) (kind : ChildKind) (childId : String)

/-- What a call gives back when it succeeds. -/
@[reducible] def Call.Answer : Call → Type
  | .add _ _ => Unit
  | .get table _ => table.Row
  | .update _ _ => Unit
  | .replace table _ _ => table.Row
  | .remove _ _ => Unit
  | .contains _ _ => Bool
  | .list table => List table.Row
  | .addChild _ _ _ => Unit
  | .hasChild _ _ _ => Bool
  | .listChildren _ _ => List String
  | .removeChild _ _ _ => Unit

/-- Something that answers calls, on states of its own. -/
structure Backend (σ : Type) where
  /-- The answer to a call, and the state after it. -/
  perform : (call : Call) → σ → Except StoreError call.Answer × σ

/-! ### Accesses of clients -/

/-- What a client asks storage for. -/
inductive Access where
  /-- An answer to a call. -/
  | call (c : Call)
  /-- The rows of a table with the given owner. -/
  | rowsOf (table : Table) (owner : String)

/-- What a client gets if nothing fails. -/
@[reducible] def Access.Answer : Access → Type
  | .call c => c.Answer
  | .rowsOf table _ => List table.Row

/-- The answer to an access, and the state of storage after it. -/
def Backend.answer {σ : Type} (backend : Backend σ) :
    (access : Access) → σ → Except StoreError access.Answer × σ
  | .call c, store => backend.perform c store
  | .rowsOf table owner, store =>
    -- storage has no index of owners: the whole table is listed, and the rest is left out
    let (rows, store) := backend.perform (.list table) store
    (rows.map fun rows => rows.filter fun row => table.owner? row = some owner, store)

end TenantRegistry
