/-
TenantRegistry/Proofs/Writing.lean

Writes, and writes that are undone.

A write that fails changes nothing, whether it was stopped or storage refused
it (`ends_write`).  What it takes for storage to accept a write, and what the
write changes then, is said once for each call.

An operation with several writes keeps an undo log.  `ends_step` is what one
step of it does: the write, and if that fails all logged undos, whose own
answers count for nothing.  A pair of writes has three ways to go
(`ends_dualWrite`).
-/
import TenantRegistry.Proofs.Looking

namespace TenantRegistry

/-! ### Calls that are refused -/

namespace Memory

variable {memory : Memory}

/-- A call that fails changes nothing. -/
theorem perform_of_error {call : Call} {cause : StoreError}
    (h : (memory.perform call).1 = .error cause) : (memory.perform call).2 = memory := by
  cases call with
  | add table row =>
    rw [perform_add] at h ⊢
    split at h
    · next hthere => rw [if_pos hthere]
    · cases h
  | get table key => rfl
  | update table row =>
    rw [perform_update] at h ⊢
    split at h
    · cases h
    · next habsent => rw [if_neg habsent]
  | replace table row expected =>
    rw [perform_replace] at h ⊢
    rcases e : memory.row? table (table.key row) with - | current
    · rfl
    · rw [e] at h
      dsimp only at h ⊢
      split at h
      · cases h
      · next hother => rw [if_neg hother]
  | remove table key =>
    rw [perform_remove] at h ⊢
    split at h
    · cases h
    · next habsent => rw [if_neg habsent]
  | contains table key => rfl
  | list table => rfl
  | addChild o kind c =>
    rw [perform_addChild] at h ⊢
    split at h
    · next hmissing => rw [if_pos hmissing]
    · next hthere =>
      rw [if_neg hthere]
      split at h
      · next hlisted => rw [if_pos hlisted]
      · cases h
  | hasChild o kind c => rfl
  | listChildren o kind => rfl
  | removeChild o kind c =>
    rw [perform_removeChild] at h ⊢
    split at h
    · cases h
    · next hunlisted => rw [if_neg hunlisted]

/-! ### Calls that are accepted -/

theorem add_accepted {table : Table} {row : table.Row}
    (h : (memory.perform (.add table row)).1 = .ok ()) :
    memory.row? table (table.key row) = none ∧
      (memory.perform (.add table row)).2 = memory.put table row := by
  rw [perform_add] at h ⊢
  split at h
  · cases h
  · next habsent => exact ⟨by simpa using habsent, by rw [if_neg habsent]⟩

theorem add_refused {table : Table} {row : table.Row} {cause : StoreError}
    (h : (memory.perform (.add table row)).1 = .error cause) :
    (memory.row? table (table.key row)).isSome = true := by
  rw [perform_add] at h
  split at h
  · assumption
  · cases h

theorem update_accepted {table : Table} {row : table.Row}
    (h : (memory.perform (.update table row)).1 = .ok ()) :
    (∃ before, memory.row? table (table.key row) = some before) ∧
      (memory.perform (.update table row)).2 = memory.put table row := by
  rw [perform_update] at h ⊢
  split at h
  · next hthere => exact ⟨Option.isSome_iff_exists.mp hthere, by rw [if_pos hthere]⟩
  · cases h

theorem replace_accepted {table : Table} {row stored : table.Row} {expected : UInt64}
    (h : (memory.perform (.replace table row expected)).1 = .ok stored) :
    ∃ before, memory.row? table (table.key row) = some before ∧
      table.revision before = expected ∧ stored = table.withRevision row (expected + 1) ∧
      (memory.perform (.replace table row expected)).2 = memory.put table stored := by
  rw [perform_replace] at h ⊢
  rcases e : memory.row? table (table.key row) with - | before
  · rw [e] at h
    cases h
  · rw [e] at h
    dsimp only at h ⊢
    split at h
    · next hrevision =>
      cases h
      exact ⟨before, rfl, hrevision, rfl, by rw [if_pos hrevision]⟩
    · cases h

theorem remove_accepted {table : Table} {key : String}
    (h : (memory.perform (.remove table key)).1 = .ok ()) :
    (∃ row, memory.row? table key = some row) ∧
      (memory.perform (.remove table key)).2 = memory.drop table key := by
  rw [perform_remove] at h ⊢
  split at h
  · next hthere => exact ⟨Option.isSome_iff_exists.mp hthere, by rw [if_pos hthere]⟩
  · cases h

theorem remove_refused {table : Table} {key : String} {cause : StoreError}
    (h : (memory.perform (.remove table key)).1 = .error cause) :
    memory.row? table key = none := by
  rw [perform_remove] at h
  split at h
  · cases h
  · next habsent => simpa using habsent

theorem addChild_accepted {o : String} {kind : ChildKind} {c : String}
    (h : (memory.perform (.addChild o kind c)).1 = .ok ()) :
    memory.hasChild o kind c = false ∧
      (memory.perform (.addChild o kind c)).2 = memory.enter o kind c := by
  rw [perform_addChild] at h ⊢
  split at h
  · cases h
  · next hthere =>
    split at h
    · cases h
    · next hlisted => exact ⟨by simpa using hlisted, by rw [if_neg hthere, if_neg hlisted]⟩

theorem addChild_refused {o : String} {kind : ChildKind} {c : String} {cause : StoreError}
    (h : (memory.perform (.addChild o kind c)).1 = .error cause) :
    memory.row? .organizations o = none ∨ memory.hasChild o kind c = true := by
  rw [perform_addChild] at h
  split at h
  · next hmissing => exact Or.inl (Option.isNone_iff_eq_none.mp hmissing)
  · split at h
    · next hlisted => exact Or.inr hlisted
    · cases h

theorem removeChild_accepted {o : String} {kind : ChildKind} {c : String}
    (h : (memory.perform (.removeChild o kind c)).1 = .ok ()) :
    memory.hasChild o kind c = true ∧
      (memory.perform (.removeChild o kind c)).2 = memory.leave o kind c := by
  rw [perform_removeChild] at h ⊢
  split at h
  · next hlisted => exact ⟨hlisted, by rw [if_pos hlisted]⟩
  · cases h

theorem removeChild_refused {o : String} {kind : ChildKind} {c : String} {cause : StoreError}
    (h : (memory.perform (.removeChild o kind c)).1 = .error cause) :
    memory.hasChild o kind c = false := by
  rw [perform_removeChild] at h
  split at h
  · cases h
  · next hunlisted => simpa using hunlisted

end Memory

/-! ### Writes of an operation -/

namespace Procedure

variable {world world' : World Memory} {trace : List Attempt}

/-- **A write is stopped or refused, and changes nothing, or is made.** -/
theorem ends_write {call : Call} {result : Except RegistryError call.Answer}
    (h : (perform call).Ends .memory world trace result world') :
    (∃ error fault, result = .error error ∧ world' = world ∧ trace = [⟨call, fault⟩] ∧
        (fault = none → ∃ cause, (world.store.perform call).1 = .error cause)) ∨
      ∃ answer, result = .ok answer ∧ (world.store.perform call).1 = .ok answer ∧
        trace = [⟨call, none⟩] ∧
        world' = { world with store := (world.store.perform call).2 } := by
  rcases ends_perform h with ⟨error, rfl, rfl, rfl⟩ | ⟨rfl, rfl, rfl⟩
  · exact Or.inl ⟨_, some error, rfl, rfl, rfl, nofun⟩
  · rcases e : (world.store.perform call).1 with cause | answer
    · refine Or.inl ⟨RegistryError.ofStore cause, none, ?_, ?_, rfl, fun _ => ⟨cause, rfl⟩⟩
      · show (world.store.perform call).1.mapError _ = _
        rw [e]
        rfl
      -- what storage refuses it leaves alone
      · show { world with store := (world.store.perform call).2 } = world
        rw [Memory.perform_of_error e]
    · refine Or.inr ⟨answer, ?_, rfl, rfl, rfl⟩
      show (world.store.perform call).1.mapError _ = _
      rw [e]
      rfl

/-- A row that was added is one more, under a key that was free. -/
theorem ends_add_row_ok {table : Table} {row : table.Row}
    (h : (perform (.add table row)).Ends .memory world trace (.ok ()) world') :
    world.store.row? table (table.key row) = none ∧ world'.store = world.store.put table row := by
  obtain ⟨haccepted, -, rfl⟩ := ends_perform_ok h
  exact Memory.add_accepted haccepted

/-- A child that was added is one more in the index. -/
theorem ends_addChild_ok {o : String} {kind : ChildKind} {c : String}
    (h : (perform (.addChild o kind c)).Ends .memory world trace (.ok ()) world') :
    world.store.hasChild o kind c = false ∧ world'.store = world.store.enter o kind c := by
  obtain ⟨haccepted, -, rfl⟩ := ends_perform_ok h
  exact Memory.addChild_accepted haccepted

end Procedure

/-! ### Undo logs -/

section Undo

variable {σ α : Type} {backend : Backend σ} {world world' world'' : World σ} {trace : List Attempt}

/-- A write is made and its undo logged, or fails and all logged undos run. -/
theorem ends_step {log : UndoLog Program RegistryError}
    {write : Program (Except RegistryError α)} {undo : Program (Except RegistryError Unit)}
    {result : Except RegistryError α} {log' : UndoLog Program RegistryError}
    (h : (log.step write undo).Ends backend world trace (result, log') world'') :
    (∃ value, write.Ends backend world trace (.ok value) world'' ∧ result = .ok value ∧
        log' = ⟨undo :: log.undos⟩) ∨
      ∃ error world' trace₁ trace₂, write.Ends backend world trace₁ (.error error) world' ∧
        (UndoLog.runAll log.undos).Ends backend world' trace₂ () world'' ∧
        result = .error error ∧ trace = trace₁ ++ trace₂ := by
  obtain ⟨outcome, world', trace₁, trace₂, hwrite, hrest, rfl⟩ := Program.ends_bind h
  cases outcome with
  | ok value =>
    cases hrest
    rw [List.append_nil]
    exact Or.inl ⟨value, hwrite, rfl, rfl⟩
  | error error =>
    obtain ⟨emptied, world₂, trace₃, trace₄, hrollback, hdone, rfl⟩ := Program.ends_bind hrest
    obtain ⟨⟨⟩, world₃, trace₅, trace₆, hundos, hreturn, rfl⟩ := Program.ends_bind hrollback
    cases hreturn
    cases hdone
    refine Or.inr ⟨error, world', trace₁, trace₅, hwrite, hundos, rfl, ?_⟩
    rw [List.append_nil, List.append_nil]

/-- Undos run one after another, whatever they answer. -/
theorem ends_runAll_cons {undo : Program (Except RegistryError Unit)}
    {rest : List (Program (Except RegistryError Unit))}
    (h : (UndoLog.runAll (undo :: rest)).Ends backend world trace () world'') :
    ∃ undone world' trace₁ trace₂, undo.Ends backend world trace₁ undone world' ∧
      (UndoLog.runAll rest).Ends backend world' trace₂ () world'' ∧ trace = trace₁ ++ trace₂ :=
  Program.ends_bind h

theorem ends_runAll_nil {undos : List (Program (Except RegistryError Unit))} (hundos : undos = [])
    (h : (UndoLog.runAll undos).Ends backend world trace () world') :
    trace = [] ∧ world' = world := by
  subst hundos
  cases h
  exact ⟨rfl, rfl⟩

/-- A write of an operation fails, and the writes before it are undone; or it is
made, and the rest follows. -/
theorem ends_writeAll_cons {log : UndoLog Program RegistryError}
    {write : Write Program RegistryError} {rest : List (Write Program RegistryError)}
    {result : Except RegistryError Unit}
    (h : (log.writeAll (write :: rest)).Ends backend world trace result world'') :
    (∃ error world' trace₁ trace₂, write.write.Ends backend world trace₁ (.error error) world' ∧
        (UndoLog.runAll log.undos).Ends backend world' trace₂ () world'' ∧
        result = .error error ∧ trace = trace₁ ++ trace₂) ∨
      ∃ world' trace₁ trace₂, write.write.Ends backend world trace₁ (.ok ()) world' ∧
        (UndoLog.writeAll ⟨write.undo :: log.undos⟩ rest).Ends backend world' trace₂ result
          world'' ∧ trace = trace₁ ++ trace₂ := by
  obtain ⟨⟨outcome, log'⟩, w₁, t₁, t₂, hstep, hrest, rfl⟩ := Program.ends_bind h
  rcases ends_step hstep with ⟨⟨⟩, hwrite, rfl, rfl⟩ | ⟨error, w₂, t₃, t₄, hwrite, hundo, rfl, rfl⟩
  · exact Or.inr ⟨w₁, t₁, t₂, hwrite, hrest, rfl⟩
  · cases hrest
    rw [List.append_nil]
    exact Or.inl ⟨error, w₂, t₃, t₄, hwrite, hundo, rfl, rfl⟩

/-- **Of two writes the first fails, or both are made, or the second fails and
the first is undone as far as that can be.** -/
theorem ends_dualWrite {primary undo secondary : Procedure Unit}
    {result : Except RegistryError Unit}
    (h : Procedure.Ends backend (ExceptT.mk (dualWrite primary.run undo.run secondary.run)) world
      trace result world'') :
    (∃ error, primary.Ends backend world trace (.error error) world'' ∧ result = .error error) ∨
      (∃ world' trace₁ trace₂, primary.Ends backend world trace₁ (.ok ()) world' ∧
        secondary.Ends backend world' trace₂ (.ok ()) world'' ∧ result = .ok () ∧
        trace = trace₁ ++ trace₂) ∨
      ∃ world₁ world₂ trace₁ trace₂ trace₃ error undone,
        primary.Ends backend world trace₁ (.ok ()) world₁ ∧
        secondary.Ends backend world₁ trace₂ (.error error) world₂ ∧
        undo.Ends backend world₂ trace₃ undone world'' ∧ result = .error error ∧
        trace = trace₁ ++ (trace₂ ++ trace₃) := by
  obtain ⟨⟨outcome, log⟩, world₁, trace₁, trace₂, hfirst, hrest, rfl⟩ := Program.ends_bind h
  rcases ends_step hfirst with ⟨⟨⟩, hprimary, rfl, rfl⟩ | ⟨error, _, t, t', hprimary, hundos, rfl, rfl⟩
  · -- the first write is made; the second is the last step of the log
    obtain ⟨⟨outcome', log'⟩, world₂, trace₃, trace₄, hsecond, hreturn, rfl⟩ :=
      Program.ends_bind hrest
    cases hreturn
    rw [List.append_nil]
    -- the log has one undo now, that of the first write
    rcases ends_step hsecond with ⟨⟨⟩, hsecondary, rfl, -⟩ | ⟨error, w₂, t, t', hsecondary, hundos, rfl, rfl⟩
    · exact Or.inr (Or.inl ⟨world₁, trace₁, trace₃, hprimary, hsecondary, rfl, rfl⟩)
    · obtain ⟨undone, w₃, t₁, t₂, hundo, hnil, rfl⟩ := ends_runAll_cons hundos
      obtain ⟨rfl, rfl⟩ := ends_runAll_nil rfl hnil
      rw [List.append_nil]
      exact Or.inr (Or.inr ⟨world₁, w₂, trace₁, t, t₁, error, undone, hprimary, hsecondary, hundo,
        rfl, rfl⟩)
  · -- the first write fails, with nothing to undo
    obtain ⟨rfl, rfl⟩ := ends_runAll_nil rfl hundos
    cases hrest
    rw [List.append_nil, List.append_nil]
    exact Or.inl ⟨error, hprimary, rfl⟩

end Undo

/-! ### Two writes without stops -/

section Undo

variable {σ α : Type} {backend : Backend σ} {world world' world'' : World σ}
  {log : UndoLog Program RegistryError} {undo : Program (Except RegistryError Unit)}

theorem run_step_ok {write : Program (Except RegistryError α)} {value : α}
    (h : write.run backend world = (.ok value, world')) :
    (log.step write undo).run backend world = ((.ok value, ⟨undo :: log.undos⟩), world') := by
  rw [UndoLog.step, Program.bind_eq, Program.run_bind, h]
  rfl

theorem run_step_error {write : Program (Except RegistryError α)} {error : RegistryError}
    (h : write.run backend world = (.error error, world'))
    (hundos : (UndoLog.runAll log.undos).run backend world' = ((), world'')) :
    (log.step write undo).run backend world = ((.error error, .empty), world'') := by
  rw [UndoLog.step, Program.bind_eq, Program.run_bind, h]
  show ((log.rollback).bind _).run backend world' = _
  rw [Program.run_bind, UndoLog.rollback, Program.bind_eq, Program.run_bind, hundos]
  rfl

variable {primary undone secondary : Procedure Unit}

/-- Both writes are made. -/
theorem runWith_dualWrite_ok (hprimary : primary.runWith backend world = (.ok (), world'))
    (hsecondary : secondary.runWith backend world' = (.ok (), world'')) :
    Procedure.runWith backend (ExceptT.mk (dualWrite primary.run undone.run secondary.run)) world =
      (.ok (), world'') := by
  show (dualWrite primary.run undone.run secondary.run).run backend world = _
  rw [dualWrite, Program.bind_eq, Program.run_bind, run_step_ok hprimary]
  show (UndoLog.finish ⟨[undone.run]⟩ secondary.run).run backend world' = _
  rw [UndoLog.finish, Program.bind_eq, Program.run_bind, run_step_ok hsecondary]
  rfl

/-- **The second of two writes fails, and the first is undone.** -/
theorem runWith_dualWrite_error {error : RegistryError} {answer : Except RegistryError Unit}
    {last : World σ} (hprimary : primary.runWith backend world = (.ok (), world'))
    (hsecondary : secondary.runWith backend world' = (.error error, world''))
    (hundo : undone.runWith backend world'' = (answer, last)) :
    Procedure.runWith backend (ExceptT.mk (dualWrite primary.run undone.run secondary.run)) world =
      (.error error, last) := by
  have hundos : (UndoLog.runAll [undone.run]).run backend world'' = ((), last) := by
    rw [UndoLog.runAll, Program.bind_eq, Program.run_bind]
    exact congrArg (fun ended => ((), ended.2)) hundo
  show (dualWrite primary.run undone.run secondary.run).run backend world = _
  rw [dualWrite, Program.bind_eq, Program.run_bind, run_step_ok hprimary]
  show (UndoLog.finish ⟨[undone.run]⟩ secondary.run).run backend world' = _
  rw [UndoLog.finish, Program.bind_eq, Program.run_bind, run_step_error hsecondary hundos]
  rfl

end Undo

end TenantRegistry
