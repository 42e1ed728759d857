/-
TenantRegistry/Storage/Fault.lean

Storage that fails on purpose.

A fault names calls that it strikes.  Of several faults the first that
strikes a call, and has not struck as often as it may, decides about it: it
lets the call through if it still has calls to skip, and stops it otherwise.
A call that is stopped fails with the error of the fault and never reaches
storage.
-/
import TenantRegistry.Storage.Call

namespace TenantRegistry

namespace Call

/-- The name of the index among the places that calls go to. -/
def indexPlace : String := "index"

/-- Where a call goes: the name of its table, or that of the index. -/
def place : Call → String
  | add table _ => table.name
  | get table _ => table.name
  | update table _ => table.name
  | replace table _ _ => table.name
  | remove table _ => table.name
  | contains table _ => table.name
  | list table => table.name
  | addChild _ _ _ => indexPlace
  | hasChild _ _ _ => indexPlace
  | listChildren _ _ => indexPlace
  | removeChild _ _ _ => indexPlace

/-- What a call does, by name. -/
def method : Call → String
  | add _ _ => "add"
  | get _ _ => "get"
  | update _ _ => "update"
  | replace _ _ _ => "replace"
  | remove _ _ => "remove"
  | contains _ _ => "exists"
  | list _ => "list"
  | addChild _ _ _ => "add_child"
  | hasChild _ _ _ => "child_exists"
  | listChildren _ _ => "list_children"
  | removeChild _ _ _ => "delete_child"

/-- The kind of children that a call on the index is about. -/
def kind? : Call → Option ChildKind
  | addChild _ kind _ => some kind
  | hasChild _ kind _ => some kind
  | listChildren _ kind => some kind
  | removeChild _ kind _ => some kind
  | _ => none

end Call

/-- A failure that waits for calls. -/
structure Fault where
  /-- Where the calls go. -/
  place : String
  /-- What they do. -/
  method : String
  /-- On the index, the only kind of children to strike. -/
  kind : Option ChildKind
  /-- What a stopped call fails with. -/
  error : StoreError
  /-- How many calls to let through first. -/
  skip : Nat
  /-- How many calls to stop after that; all of them if there is no number. -/
  times : Option Nat

namespace Fault

/-- Whether a fault strikes a call. -/
def strikes (fault : Fault) (call : Call) : Bool :=
  fault.place = call.place && fault.method = call.method &&
    (fault.kind.isNone || call.kind?.isNone || fault.kind = call.kind?) && fault.times ≠ some 0

/-- What a fault does with a call that it strikes, and the fault after that. -/
def verdict (fault : Fault) : Option StoreError × Fault :=
  match fault.skip with
  | skip + 1 => (none, { fault with skip })
  | 0 => (some fault.error, { fault with times := fault.times.map (· - 1) })

/-- What stops a call, if anything does, and the faults after that. -/
def meet : List Fault → Call → Option StoreError × List Fault
  | [], _ => (none, [])
  | fault :: rest, call =>
    if fault.strikes call then
      let (error, fault) := fault.verdict
      (error, fault :: rest)
    else
      let (error, rest) := meet rest call
      (error, fault :: rest)

end Fault

/-- A backend behind faults. -/
def Backend.faulty {σ : Type} (backend : Backend σ) : Backend (List Fault × σ) where
  perform call state :=
    match Fault.meet state.1 call with
    | (some error, faults) => (.error error, (faults, state.2))
    | (none, faults) =>
      let (answer, store) := backend.perform call state.2
      (answer, (faults, store))

end TenantRegistry
