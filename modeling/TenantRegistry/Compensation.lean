/-
TenantRegistry/Compensation.lean

Ordered writes with best-effort undo.

An operation with several writes keeps a log of how to undo those that
succeeded.  When a write fails, the logged undos run, last write first, each
once, and the log is empty after that; what the undos answer is of no
consequence, and the answer of the step is that of its write.  The last write
of an operation needs no undo, and keeping the writes is dropping the log.

Writes and undos are programs of any monad.  A rehearsal runs writes and undos
whose outcomes are given beforehand, in the monad that keeps a journal, to show
which of them run, and in which order.
-/
namespace TenantRegistry

/-- How to undo the writes of an operation so far, the last one first. -/
structure UndoLog (m : Type → Type) (ε : Type) where
  undos : List (m (Except ε Unit))

namespace UndoLog

variable {m : Type → Type} [Monad m] {ε α : Type}

/-- The log of an operation without writes. -/
def empty : UndoLog m ε := ⟨[]⟩

/-- Run undos, whatever they answer. -/
def runAll : List (m (Except ε Unit)) → m Unit
  | [] => pure ()
  | undo :: rest => do
    let _ ← undo
    runAll rest

/-- Undo the logged writes. -/
def rollback (log : UndoLog m ε) : m (UndoLog m ε) := do
  runAll log.undos
  return empty

/-- Make a write.  If it succeeds its undo is logged; if it fails the logged
writes are undone. -/
def step (log : UndoLog m ε) (write : m (Except ε α)) (undo : m (Except ε Unit)) :
    m (Except ε α × UndoLog m ε) := do
  match ← write with
  | .ok value => return (.ok value, ⟨undo :: log.undos⟩)
  | .error failure => do
    -- the failure of the write is the answer, not those of the undos
    let log ← log.rollback
    return (.error failure, log)

/-- Make the last write of an operation. -/
def finish (log : UndoLog m ε) (write : m (Except ε α)) : m (Except ε α) := do
  let (result, _) ← log.step write (pure (.ok ()))
  return result

end UndoLog

/-! ### Operations with several writes -/

/-- A write, and how to undo it. -/
structure Write (m : Type → Type) (ε : Type) where
  write : m (Except ε Unit)
  undo : m (Except ε Unit)

/-- Make writes one after another, up to the first that fails. -/
def UndoLog.writeAll {m : Type → Type} [Monad m] {ε : Type} (log : UndoLog m ε) :
    List (Write m ε) → m (Except ε Unit)
  | [] => pure (.ok ())
  | write :: rest => do
    let (result, log) ← log.step write.write write.undo
    match result with
    | .error failure => return .error failure
    | .ok () => log.writeAll rest

/-- Two writes: if the second fails the first is undone. -/
def dualWrite {m : Type → Type} [Monad m] {ε : Type} (primary undo secondary : m (Except ε Unit)) :
    m (Except ε Unit) := do
  let (result, log) ← UndoLog.empty.step primary undo
  match result with
  | .error failure => return .error failure
  | .ok () => log.finish secondary

/-! ### Rehearsals -/

/-- A step with outcomes given beforehand. -/
structure RehearsedStep (ε α : Type) where
  label : String
  write : Except ε α
  undo : Except ε Unit

/-- The monad that keeps a journal of what ran. -/
abbrev Journal : Type → Type := StateM (List String)

/-- An outcome, and a line in the journal. -/
def Journal.outcome {ε α : Type} (line : String) (result : Except ε α) : Journal (Except ε α) := do
  modify (· ++ [line])
  return result

namespace UndoLog

variable {ε α : Type}

/-- One step of a rehearsal. -/
def rehearseStep (log : UndoLog Journal ε) (step : RehearsedStep ε α) :
    Journal (Except ε α × UndoLog Journal ε) :=
  log.step (Journal.outcome s!"write {step.label}" step.write)
    (Journal.outcome s!"undo {step.label}" step.undo)

/-- The steps of a rehearsal, all on one log.  After a failed step the others
follow, unless `stops`. -/
def rehearseSteps (stops : Bool) (log : UndoLog Journal ε) :
    List (RehearsedStep ε α) → Journal (List (Except ε α) × UndoLog Journal ε)
  | [] => return ([], log)
  | step :: rest => do
    let (result, log) ← log.rehearseStep step
    match result, stops with
    | .error _, true => return ([result], log)
    | _, _ => do
      let (results, log) ← log.rehearseSteps stops rest
      return (result :: results, log)

/-- A rehearsal that ends with a last write, or else by keeping the writes.
Its results are those of the steps, and that of the last write. -/
def rehearse (stops : Bool) (steps : List (RehearsedStep ε α)) (last : Option (Except ε α)) :
    Journal (List (Except ε α) × Option (Except ε α)) := do
  let (results, log) ← UndoLog.empty.rehearseSteps stops steps
  match last with
  | none => return (results, none)
  | some outcome => do
    let result ← log.finish (Journal.outcome "write finish" outcome)
    return (results, some result)

end UndoLog

end TenantRegistry
