/-
TenantRegistry/Toml/Document.lean

From the lines of a document to its tables.

A key is given once.  A header opens a table that did not have one; a dotted
key makes tables of its own, and cannot add to one that has a header.  A path
that meets a list of tables goes on into the last of them.  Where the lines
contradict each other there is no document.
-/
import TenantRegistry.Toml.Value

namespace TenantRegistry

namespace Toml

/-! ### Members -/

/-- The value under a key. -/
def Members.get? (members : Members) (key : String) : Option Value := members.lookup key

/-- The members with the value under a key edited, or made, in its place. -/
def Members.edit (key : String) (change : Option Value → Option Value) :
    Members → Option Members
  | [] => (change none).map fun value => [(key, value)]
  | (name, value) :: rest =>
    if name = key then (change (some value)).map fun value => (name, value) :: rest
    else (Members.edit key change rest).map ((name, value) :: ·)

/-- The members with a new one at the end. -/
def Members.add (members : Members) (key : String) (value : Value) : Option Members :=
  match members.get? key with
  | some _ => none
  | none => some (members ++ [(key, value)])

/-- The list with its last element edited. -/
def editLast {α : Type} (change : α → Option α) : List α → Option (List α)
  | [] => none
  | [x] => (change x).map ([·])
  | x :: rest => (editLast change rest).map (x :: ·)

/-! ### Paths -/

/-- Go down a path from a table and edit the table at its end.  Tables that are
missing are made, with the given origin. -/
def descend (making : Origin) (change : Origin → Members → Option Members) :
    List String → Origin → Members → Option Members
  | [], origin, members => change origin members
  | key :: path, _, members =>
    members.edit key fun
      | none => (descend making change path making []).map (.table making)
      | some (.table origin inner) =>
        if origin = .inline ∨ (making = .dotted ∧ origin = .header) then none
        else (descend making change path origin inner).map (.table origin)
      | some (.tables elements) =>
        (editLast (descend making change path .header) elements).map .tables
      | some _ => none

/-- Give a table a header, or fail if it has one.  A table that was passed
before moves to the end of its parent. -/
def openTable (key : String) (members : Members) : Option Members :=
  match members.get? key with
  | none => some (members ++ [(key, .table .header [])])
  | some (.table .passed inner) =>
    some (members.filter (fun member => member.1 ≠ key) ++ [(key, .table .header inner)])
  | some _ => none

/-- Begin one more table of a list of tables. -/
def openElement (key : String) (members : Members) : Option Members :=
  members.edit key fun
    | none => some (.tables [[]])
    | some (.tables elements) => some (.tables (elements ++ [[]]))
    | some _ => none

/-- Put a value under a dotted key, of which only the last part is new. -/
def putEntry (value : Value) : List String → Origin → Members → Option Members
  | [], _, _ => none
  | [key], origin, members => if origin = .dotted then none else members.add key value
  | path, origin, members =>
    descend .dotted
      (fun last inner => if last = .dotted then inner.add (path.getLastD "") value else none)
      path.dropLast origin members

/-- Put a value under a dotted key of an inline table. -/
def putInline (value : Value) (path : List String) (members : Members) : Option Members :=
  descend .dotted (fun _ inner => inner.add (path.getLastD "") value) path.dropLast .inline members

/-! ### Lines -/

/-- A document that is being made: its tables, and the path of the table that
entries go to. -/
structure Draft where
  root : Members
  here : List String

/-- The draft after one more line. -/
def Draft.read (draft : Draft) : Line → Option Draft
  | .header path =>
    (descend .passed (fun _ members => openTable (path.getLastD "") members) path.dropLast .header
      draft.root).map fun root => ⟨root, path⟩
  | .element path =>
    (descend .passed (fun _ members => openElement (path.getLastD "") members) path.dropLast .header
      draft.root).map fun root => ⟨root, path⟩
  | .entry path value =>
    (descend .passed (putEntry value path) draft.here .header draft.root).map fun root =>
      { draft with root }

/-- The tables that lines describe. -/
def document (lines : List Line) : Option Members :=
  (lines.foldlM Draft.read ⟨[], []⟩).map (·.root)

end Toml

end TenantRegistry
