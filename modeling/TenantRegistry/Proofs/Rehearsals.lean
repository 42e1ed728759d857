/-
TenantRegistry/Proofs/Rehearsals.lean

Which undos run, and when.

An undo log changes with every step: it grows with a write that succeeds, is
emptied by one that fails, and is used again after that.  What it holds can be
told from outcomes alone.  After some steps it is the undos of `pending`, the
steps made since the latest write that failed, the last one first
(`run_rehearseStep`); what the undos answered is nowhere in it.

So the journal of a rehearsal has a closed form (`transcript`): one line for each
write, in order, and after a write that failed one line for each undo that was
pending then.

Main result: `undos_run_after_failures`.
-/
import Mathlib.Data.List.Infix
import TenantRegistry.Compensation

namespace TenantRegistry

variable {ε α : Type}

/-! ### The journal, from outcomes alone -/

namespace RehearsedStep

/-- The undo of a step. -/
def undoing (step : RehearsedStep ε α) : Journal (Except ε Unit) :=
  Journal.outcome s!"undo {step.label}" step.undo

/-- The line that the undo of a step leaves. -/
def undoLine (step : RehearsedStep ε α) : String := s!"undo {step.label}"

end RehearsedStep

/-- The steps made since the latest write that failed, the last one first. -/
def pending (steps : List (RehearsedStep ε α)) : List (RehearsedStep ε α) :=
  steps.reverse.takeWhile fun step => step.write.isOk

/-- What a write leaves in the journal when it comes after the steps `before`. -/
def writeLines (before : List (RehearsedStep ε α)) {β : Type} (label : String)
    (outcome : Except ε β) : List String :=
  s!"write {label}" :: if outcome.isOk then [] else (pending before).map RehearsedStep.undoLine

/-- Each step, with the steps before it. -/
def withEarlier (steps : List (RehearsedStep ε α)) :
    List (List (RehearsedStep ε α) × RehearsedStep ε α) :=
  steps.inits.zip steps

/-- The journal of steps and of a last write, if there is one. -/
def transcript (steps : List (RehearsedStep ε α)) (last : Option (Except ε α)) : List String :=
  ((withEarlier steps).flatMap fun (before, step) => writeLines before step.label step.write) ++
    last.elim [] (writeLines steps "finish")

/-- A step that was made is the first to be undone, and after one that failed nothing is. -/
theorem pending_concat (steps : List (RehearsedStep ε α)) (step : RehearsedStep ε α) :
    pending (steps ++ [step]) = if step.write.isOk then step :: pending steps else [] := by
  rw [pending, List.reverse_append, List.reverse_singleton, List.singleton_append,
    List.takeWhile_cons]
  rfl

/-! ### Running the steps of a rehearsal -/

namespace Journal

theorem run_bind {β : Type} (first : Journal α) (rest : α → Journal β) (journal : List String) :
    (first >>= rest).run journal = (rest (first.run journal).1).run (first.run journal).2 := rfl

end Journal

namespace UndoLog

/-- Undos run one after another, whatever they answer. -/
theorem run_runAll (steps : List (RehearsedStep ε α)) (journal : List String) :
    (runAll (steps.map RehearsedStep.undoing)).run journal =
      ((), journal ++ steps.map RehearsedStep.undoLine) := by
  induction steps generalizing journal with
  | nil =>
    rw [List.map_nil, List.map_nil, List.append_nil]
    rfl
  | cons step rest ih =>
    have hrest := ih (journal ++ [step.undoLine])
    rw [List.append_assoc, List.singleton_append] at hrest
    exact hrest

/-- The log after some steps. -/
def after (steps : List (RehearsedStep ε α)) : UndoLog Journal ε :=
  ⟨(pending steps).map RehearsedStep.undoing⟩

theorem empty_eq_after : (empty : UndoLog Journal ε) = after ([] : List (RehearsedStep ε α)) := rfl

/-- One more step is one more undo, or none at all. -/
theorem after_concat (steps : List (RehearsedStep ε α)) (step : RehearsedStep ε α) :
    after (steps ++ [step]) =
      if step.write.isOk then ⟨step.undoing :: (after steps).undos⟩ else empty := by
  rw [after, pending_concat]
  split
  · rfl
  · rfl

/-- **A write leaves its line, and if it fails all that is pending is undone.** -/
theorem run_step {β : Type} (before : List (RehearsedStep ε α)) (label : String)
    (outcome : Except ε β) (undo : Journal (Except ε Unit)) (journal : List String) :
    ((after before).step (Journal.outcome s!"write {label}" outcome) undo).run journal =
      ((outcome, if outcome.isOk then ⟨undo :: (after before).undos⟩ else empty),
        journal ++ writeLines before label outcome) := by
  cases outcome with
  | ok value => rfl
  | error failure =>
    -- the write has its line when the undos run
    have hundos := run_runAll (pending before) (journal ++ [s!"write {label}"])
    rw [List.append_assoc, List.singleton_append] at hundos
    exact congrArg (fun ran => ((Except.error failure, empty), ran.2)) hundos

/-- **A step leaves the log that the outcomes tell.** -/
theorem run_rehearseStep (before : List (RehearsedStep ε α)) (step : RehearsedStep ε α)
    (journal : List String) :
    ((after before).rehearseStep step).run journal =
      ((step.write, after (before ++ [step])),
        journal ++ writeLines before step.label step.write) := by
  rw [after_concat]
  exact run_step before step.label step.write step.undoing journal

/-- What follows a step in a rehearsal that does not stop. -/
theorem rehearseSteps_cons (log : UndoLog Journal ε) (step : RehearsedStep ε α)
    (rest : List (RehearsedStep ε α)) :
    log.rehearseSteps false (step :: rest) = do
      let (result, log) ← log.rehearseStep step
      let (results, log) ← log.rehearseSteps false rest
      return (result :: results, log) := by
  rw [rehearseSteps]
  refine congrArg _ (funext fun ran => ?_)
  obtain ⟨result, log⟩ := ran
  cases result with
  | ok value => rfl
  | error failure => rfl

/-- **The steps of a rehearsal answer with the outcomes of their writes**, and each leaves the
lines that follow from the steps before it. -/
theorem run_rehearseSteps (before steps : List (RehearsedStep ε α)) (journal : List String) :
    ((after before).rehearseSteps false steps).run journal =
      ((steps.map (·.write), after (before ++ steps)),
        journal ++ (withEarlier steps).flatMap fun (earlier, step) =>
          writeLines (before ++ earlier) step.label step.write) := by
  induction steps generalizing before journal with
  | nil =>
    rw [List.append_nil, withEarlier, List.zip_nil_right, List.flatMap_nil, List.append_nil]
    rfl
  | cons step rest ih =>
    -- what is before the rest is what was before, and the step
    have hlines : (withEarlier (step :: rest)).flatMap (fun (earlier, later) =>
          writeLines (before ++ earlier) later.label later.write) =
        writeLines before step.label step.write ++ (withEarlier rest).flatMap
          fun (earlier, later) =>
            writeLines (before ++ [step] ++ earlier) later.label later.write := by
      simp only [withEarlier, List.inits_cons, List.zip_cons_cons, List.flatMap_cons,
        List.append_nil, List.zip_map_left, List.flatMap_map, List.append_assoc,
        List.singleton_append, Prod.map, id]
    rw [hlines, ← List.append_assoc, List.append_cons, rehearseSteps_cons, Journal.run_bind,
      run_rehearseStep]
    dsimp only
    rw [Journal.run_bind, ih]
    rfl

/-- The last write of an operation leaves the lines of a step, and its own outcome is the answer. -/
theorem run_finish (steps : List (RehearsedStep ε α)) {β : Type} (outcome : Except ε β)
    (journal : List String) :
    ((after steps).finish (Journal.outcome "write finish" outcome)).run journal =
      (outcome, journal ++ writeLines steps "finish" outcome) := by
  rw [finish, Journal.run_bind]
  exact congrArg (fun ran => (ran.1.1, ran.2)) (run_step steps "finish" outcome _ journal)

/-! ### Whole rehearsals -/

/-- **Two writes of which the second undoes the first when it fails** are one step and a last
write, which is left out if the step fails. -/
theorem run_dualWrite (step : RehearsedStep ε Unit) (secondary : Except ε Unit)
    (journal : List String) :
    (dualWrite (Journal.outcome s!"write {step.label}" step.write) step.undoing
        (Journal.outcome "write finish" secondary)).run journal =
      match step.write with
      | .ok () => (secondary, journal ++ transcript [step] (some secondary))
      | .error failure => (.error failure, journal ++ transcript [step] none) := by
  have hstep : (UndoLog.empty.step (Journal.outcome s!"write {step.label}" step.write)
        step.undoing).run journal =
      ((step.write, after [step]), journal ++ writeLines [] step.label step.write) :=
    run_rehearseStep [] step journal
  have hwrite : withEarlier [step] = [([], step)] := rfl
  rw [transcript, transcript, hwrite, List.flatMap_singleton, Option.elim_some, Option.elim_none,
    List.append_nil, ← List.append_assoc, dualWrite, Journal.run_bind, hstep]
  obtain ⟨label, outcome, undo⟩ := step
  cases outcome with
  | ok value => exact run_finish [⟨label, .ok (), undo⟩] secondary _
  | error failure => rfl

/-- **A rehearsal answers with the outcomes of its writes, and its journal is the transcript of
these outcomes**: each write runs once, in order; a write that fails is followed by the undos of the
steps made since the write that failed before it, latest first, each once; and no other undo runs.
Two writes of which the second can undo the first are such a rehearsal with one step, where the last
write is left out if the step fails. -/
theorem undos_run_after_failures (steps : List (RehearsedStep ε α)) (last : Option (Except ε α))
    (journal : List String) :
    (rehearse false steps last).run journal =
        ((steps.map (·.write), last), journal ++ transcript steps last) ∧
      ∀ (step : RehearsedStep ε Unit) (secondary : Except ε Unit),
        (dualWrite (Journal.outcome s!"write {step.label}" step.write) step.undoing
            (Journal.outcome "write finish" secondary)).run journal =
          match step.write with
          | .ok () => (secondary, journal ++ transcript [step] (some secondary))
          | .error failure => (.error failure, journal ++ transcript [step] none) := by
  refine ⟨?_, fun step secondary => run_dualWrite step secondary journal⟩
  have hsteps := run_rehearseSteps [] steps journal
  rw [List.nil_append] at hsteps
  rw [transcript, ← List.append_assoc, rehearse, Journal.run_bind, empty_eq_after (α := α), hsteps]
  cases last with
  | none =>
    dsimp only
    rw [Option.elim_none, List.append_nil]
    rfl
  | some outcome =>
    dsimp only
    rw [Journal.run_bind, run_finish]
    rfl

-- the undo of `b` fails, and `d` is made on the log that the failure of `c` emptied
example :
    transcript (ε := String) (α := Unit)
      [⟨"a", .ok (), .ok ()⟩, ⟨"b", .ok (), .error "stuck"⟩, ⟨"c", .error "down", .ok ()⟩,
        ⟨"d", .ok (), .ok ()⟩] (some (.error "late")) =
      ["write a", "write b", "write c", "undo b", "undo a", "write d", "write finish",
        "undo d"] := by
  decide

end UndoLog

end TenantRegistry
