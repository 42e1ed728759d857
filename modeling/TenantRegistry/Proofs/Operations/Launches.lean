/-
TenantRegistry/Proofs/Operations/Launches.lean

The operation that makes an instance.

It makes up to four writes, and undoes those before one that fails, the latest
first.  An undo may be stopped, and so any of the first three writes may
remain (`Memory.remains`).  Each write has a lemma that starts from what is
there before it and goes on to the end; together they are `effect_writes`.
-/
import TenantRegistry.Proofs.Operations.Additions
import TenantRegistry.Proofs.Operations.Removals

namespace TenantRegistry

open Procedure

variable {world world' world'' : World Memory} {trace trace₁ trace₂ : List Attempt}

/-! ### Making an instance -/

namespace Memory

variable {memory : Memory} {app : Instance} {snapshot : Snapshot} {row entry copy : Bool}

theorem perform_removeChild_snd (memory : Memory) (o : String) (kind : ChildKind) (c : String) :
    (memory.perform (.removeChild o kind c)).2 = memory.leave o kind c := by
  rw [perform_removeChild]
  split
  · rfl
  · next hunlisted =>
    refine ext_rows (fun _ => rfl) ?_
    have hnone := OrderedMap.contains_eq_false_iff.mp (Bool.eq_false_iff.mpr hunlisted)
    exact (OrderedMap.erase_of_absent hnone).symm

theorem drop_remains_row (h : memory.row? .instances app.instanceId = none) :
    (memory.remains app snapshot true entry copy).drop .instances app.instanceId =
      memory.remains app snapshot false entry copy := by
  have hdrop : (memory.put .instances app).drop .instances app.instanceId = memory := drop_put h
  calc
    _ = ((memory.put .instances app).drop .instances app.instanceId).remains app snapshot false
        entry copy := by cases entry <;> cases copy <;> rfl
    _ = _ := by rw [hdrop]

theorem leave_remains_entry
    (h : memory.hasChild app.organizationId .appInstance app.instanceId = false) :
    (memory.remains app snapshot row true copy).leave app.organizationId .appInstance
      app.instanceId = memory.remains app snapshot row false copy := by
  have hleave : (memory.enter app.organizationId .appInstance app.instanceId).leave
      app.organizationId .appInstance app.instanceId = memory := leave_enter h
  calc
    _ = ((memory.enter app.organizationId .appInstance app.instanceId).leave
        app.organizationId .appInstance app.instanceId).remains app snapshot row false copy := by
      cases row <;> cases copy <;> rfl
    _ = _ := by rw [hleave]

theorem drop_remains_copy (h : memory.row? .snapshots snapshot.instanceId = none) :
    (memory.remains app snapshot row entry true).drop .snapshots snapshot.instanceId =
      memory.remains app snapshot row entry false := by
  refine drop_put ?_
  cases row <;> cases entry <;> exact h

end Memory

/-- An undo is stopped, or it is made. -/
theorem ends_undo {call : Call} {result : Except RegistryError call.Answer}
    (h : (perform call).Ends .memory world trace result world') :
    ∃ kept : Bool, (kept = true → stops trace ≠ 0) ∧
      world'.store = if kept then world.store else (world.store.perform call).2 := by
  rcases ends_perform h with ⟨error, rfl, -, rfl⟩ | ⟨rfl, -, rfl⟩
  · exact ⟨true, by simp, rfl⟩
  · exact ⟨false, nofun, rfl⟩

namespace Instances

variable {app : Instance} {snapshot : Snapshot} {store : Memory} {entry copy : Bool}

/-- Undoing the first write. -/
theorem ends_undo_row (habsent : store.row? .instances app.instanceId = none)
    (hworld : world.store = store.remains app snapshot true entry copy)
    (h : (UndoLog.runAll [(perform (.remove .instances app.instanceId)).run]).Ends .memory world
      trace () world') :
    ∃ row, world'.store = store.remains app snapshot row entry copy ∧
      (row = true → stops trace ≠ 0) := by
  obtain ⟨undone, w₁, t₁, t₂, hundo, hnil, rfl⟩ := ends_runAll_cons h
  obtain ⟨rfl, rfl⟩ := ends_runAll_nil rfl hnil
  rw [List.append_nil]
  obtain ⟨kept, hstops, hstore⟩ := ends_undo hundo
  refine ⟨kept, ?_, hstops⟩
  rw [hstore, hworld, Memory.perform_remove_snd, Memory.drop_remains_row habsent]
  cases kept <;> rfl

/-- Undoing the first two writes. -/
theorem ends_undo_entry (habsent : store.row? .instances app.instanceId = none)
    (hunlisted : store.hasChild app.organizationId .appInstance app.instanceId = false)
    (hworld : world.store = store.remains app snapshot true true copy)
    (h : (UndoLog.runAll [
      (perform (.removeChild app.organizationId .appInstance app.instanceId)).run,
      (perform (.remove .instances app.instanceId)).run]).Ends .memory world trace () world') :
    ∃ row entry, world'.store = store.remains app snapshot row entry copy ∧
      ((row || entry) = true → stops trace ≠ 0) := by
  obtain ⟨undone, w₁, t₁, t₂, hundo, hrest, rfl⟩ := ends_runAll_cons h
  obtain ⟨entry, hentry, hstore⟩ := ends_undo hundo
  rw [hworld, Memory.perform_removeChild_snd, Memory.leave_remains_entry hunlisted] at hstore
  have hstore' : w₁.store = store.remains app snapshot true entry copy := by
    rw [hstore]
    cases entry <;> rfl
  obtain ⟨row, hafter, hrow⟩ := ends_undo_row habsent hstore' hrest
  refine ⟨row, entry, hafter, fun hsome => ?_⟩
  rw [stops_append]
  rcases Bool.or_eq_true_iff.mp hsome with h | h
  · have := hrow h
    omega
  · have := hentry h
    omega

/-- Undoing the first three writes. -/
theorem ends_undo_copy (habsent : store.row? .instances app.instanceId = none)
    (hunlisted : store.hasChild app.organizationId .appInstance app.instanceId = false)
    (hkey : snapshot.instanceId = app.instanceId)
    (hcopy : store.row? .snapshots app.instanceId = none)
    (hworld : world.store = store.remains app snapshot true true true)
    (h : (UndoLog.runAll [
      (perform (.remove .snapshots app.instanceId)).run,
      (perform (.removeChild app.organizationId .appInstance app.instanceId)).run,
      (perform (.remove .instances app.instanceId)).run]).Ends .memory world trace () world') :
    ∃ row entry copy, world'.store = store.remains app snapshot row entry copy ∧
      ((row || entry || copy) = true → stops trace ≠ 0) := by
  obtain ⟨undone, w₁, t₁, t₂, hundo, hrest, rfl⟩ := ends_runAll_cons h
  obtain ⟨copy, hkept, hstore⟩ := ends_undo hundo
  -- what was new before the write is dropped without a trace
  have hdrop : (store.remains app snapshot true true true).drop .snapshots app.instanceId =
      store.remains app snapshot true true false := by
    rw [← hkey] at hcopy ⊢
    exact Memory.drop_remains_copy hcopy
  rw [hworld, Memory.perform_remove_snd, hdrop] at hstore
  have hstore' : w₁.store = store.remains app snapshot true true copy := by
    rw [hstore]
    cases copy <;> rfl
  obtain ⟨row, entry, hafter, hrest⟩ := ends_undo_entry habsent hunlisted hstore' hrest
  refine ⟨row, entry, copy, hafter, fun hsome => ?_⟩
  rw [stops_append]
  rcases Bool.or_eq_true_iff.mp hsome with h | h
  · have := hrest h
    omega
  · have := hkept h
    omega

/-- What remains of writes that failed, by what is left of them. -/
theorem effect_of_remains {start : World Memory} {request : NewInstance}
    {parameters : Option InstanceParameters} {row entry copy : Bool}
    (hstore : world'.store = start.store.remains app snapshot row entry copy)
    (undoing : List Attempt) (hstops : (row || entry || copy) = true → stops undoing ≠ 0)
    (hnew : NewInstanceRows start world' request.organizationId app snapshot parameters)
    (habsent : start.store.row? .instances app.instanceId = none)
    (hunlisted : entry = true →
      start.store.hasChild request.organizationId .appInstance app.instanceId = false)
    (hcopy : copy = true → start.store.row? .snapshots app.instanceId = none)
    (hcause : stops trace₁ ≠ 0 ∨
      start.store.hasChild request.organizationId .appInstance app.instanceId = true ∨
      start.store.row? .snapshots app.instanceId ≠ none ∨
      start.store.row? .parameters app.instanceId ≠ none)
    (htrace : stops trace₁ + stops undoing ≤ stops trace) :
    Effect start world' trace (.addInstance request) false := by
  -- something remains, for which an undo was stopped, or all is as before
  cases hsome : row || entry || copy with
  | true =>
    refine .remaining app snapshot parameters hnew row entry copy hsome habsent hunlisted hcopy
      (hcause.imp (fun hstopped => ?_) id) hstore
    have := hstops hsome
    omega
  | false =>
    simp only [Bool.or_eq_false_iff] at hsome
    obtain ⟨⟨rfl, rfl⟩, rfl⟩ := hsome
    exact .unchanged hstore nofun

/-- A write that fails was stopped or refused. -/
theorem ends_failed_write {call : Call} {error : RegistryError}
    (h : (perform call).Ends .memory world trace (.error error) world') :
    world' = world ∧ (stops trace ≠ 0 ∨ ∃ cause, (world.store.perform call).1 = .error cause) := by
  rcases ends_write h with ⟨_, fault, -, rfl, rfl, hrefused⟩ | ⟨_, hok, -⟩
  · cases fault with
    | none => exact ⟨rfl, Or.inr (hrefused rfl)⟩
    | some error => exact ⟨rfl, Or.inl (by simp)⟩
  · cases hok

section Writes

variable {start : World Memory} {request : NewInstance} {parameters : Option InstanceParameters}
  {result : Except RegistryError Unit} {whole : List Attempt}

/-- The last write, that of the parameters, if there are any. -/
theorem effect_write_parameters
    (h : (UndoLog.writeAll ⟨[
      (perform (.remove .snapshots app.instanceId)).run,
      (perform (.removeChild app.organizationId .appInstance app.instanceId)).run,
      (perform (.remove .instances app.instanceId)).run]⟩
      (parameters.toList.map fun given =>
        ⟨(perform (.add .parameters given)).run,
          (perform (.remove .parameters app.instanceId)).run⟩)).Ends .memory world trace result world')
    (hworld : world.store = start.store.remains app snapshot true true true)
    (hnew : NewInstanceRows start world' request.organizationId app snapshot parameters)
    (habsent : start.store.row? .instances app.instanceId = none)
    (hunlisted : start.store.hasChild app.organizationId .appInstance app.instanceId = false)
    (hcopy : start.store.row? .snapshots app.instanceId = none)
    (htrace : stops trace ≤ stops whole) :
    Effect start world' whole (.addInstance request) result.isOk := by
  cases parameters with
  | none =>
    cases h
    exact .launched app snapshot none hnew habsent (hnew.owner ▸ hunlisted) hcopy nofun hworld
  | some given =>
    have hkey : given.instanceId = app.instanceId := hnew.parameters_key given rfl
    rcases ends_writeAll_cons h with
      ⟨error, w₁, t₁, t₂, hfailed, hundo, rfl, rfl⟩ | ⟨w₁, t₁, t₂, hmade, hnil, rfl⟩
    · obtain ⟨rfl, hcause⟩ := ends_failed_write hfailed
      obtain ⟨row, entry, copy, hstore, hstops⟩ :=
        ends_undo_copy habsent hunlisted hnew.snapshot_key hcopy hworld hundo
      refine effect_of_remains hstore t₂ hstops hnew habsent (fun _ => hnew.owner ▸ hunlisted)
        (fun _ => hcopy) (hcause.imp_right fun ⟨cause, hrefused⟩ => ?_) (by simpa using htrace)
      -- refused parameters were there before
      have hthere := Memory.add_refused hrefused
      rw [hworld] at hthere
      rw [← hkey]
      exact Or.inr (Or.inr (Option.isSome_iff_ne_none.mp hthere))
    · cases hnil
      obtain ⟨hstored, -, rfl⟩ := ends_perform_ok hmade
      obtain ⟨hfree, hput⟩ := Memory.add_accepted hstored
      rw [hworld] at hfree hput
      refine .launched app snapshot (some given) hnew habsent (hnew.owner ▸ hunlisted) hcopy
        (fun _ => ?_) ?_
      · rw [← hkey]
        exact hfree
      · show (Memory.perform _ world.store).2 = _
        rw [hworld]
        exact hput

/-- The write of the snapshot, and what follows. -/
theorem effect_write_copy
    (h : (UndoLog.writeAll ⟨[
      (perform (.removeChild app.organizationId .appInstance app.instanceId)).run,
      (perform (.remove .instances app.instanceId)).run]⟩
      (⟨(perform (.add .snapshots snapshot)).run,
          (perform (.remove .snapshots app.instanceId)).run⟩ ::
        parameters.toList.map fun given =>
        ⟨(perform (.add .parameters given)).run,
          (perform (.remove .parameters app.instanceId)).run⟩)).Ends .memory world trace result world')
    (hworld : world.store = start.store.remains app snapshot true true false)
    (hnew : NewInstanceRows start world' request.organizationId app snapshot parameters)
    (habsent : start.store.row? .instances app.instanceId = none)
    (hunlisted : start.store.hasChild app.organizationId .appInstance app.instanceId = false)
    (htrace : stops trace ≤ stops whole) :
    Effect start world' whole (.addInstance request) result.isOk := by
  have hkey := hnew.snapshot_key
  rcases ends_writeAll_cons h with
    ⟨error, w₁, t₁, t₂, hfailed, hundo, rfl, rfl⟩ | ⟨w₁, t₁, t₂, hmade, hrest, rfl⟩
  · obtain ⟨rfl, hcause⟩ := ends_failed_write hfailed
    obtain ⟨row, entry, hstore, hstops⟩ := ends_undo_entry habsent hunlisted hworld hundo
    refine effect_of_remains hstore t₂ (by simpa using hstops) hnew habsent
      (fun _ => hnew.owner ▸ hunlisted) nofun (hcause.imp_right fun ⟨cause, hrefused⟩ => ?_)
      (by simpa using htrace)
    -- a refused snapshot was there before
    have hthere := Memory.add_refused hrefused
    rw [hworld] at hthere
    rw [← hkey]
    exact Or.inr (Or.inl (Option.isSome_iff_ne_none.mp hthere))
  · obtain ⟨hstored, -, rfl⟩ := ends_perform_ok hmade
    obtain ⟨hfree, hput⟩ := Memory.add_accepted hstored
    rw [hworld] at hfree hput
    rw [stops_append] at htrace
    refine effect_write_parameters hrest ?_ hnew habsent hunlisted ?_ (by omega)
    · show (Memory.perform _ world.store).2 = _
      rw [hworld]
      exact hput
    · rw [← hkey]
      exact hfree

/-- The write of the entry, and what follows. -/
theorem effect_write_entry
    (h : (UndoLog.writeAll ⟨[(perform (.remove .instances app.instanceId)).run]⟩
      (⟨(perform (.addChild app.organizationId .appInstance app.instanceId)).run,
          (perform (.removeChild app.organizationId .appInstance app.instanceId)).run⟩ ::
        ⟨(perform (.add .snapshots snapshot)).run,
          (perform (.remove .snapshots app.instanceId)).run⟩ ::
        parameters.toList.map fun given =>
        ⟨(perform (.add .parameters given)).run,
          (perform (.remove .parameters app.instanceId)).run⟩)).Ends .memory world trace result world')
    (hworld : world.store = start.store.remains app snapshot true false false)
    (hnew : NewInstanceRows start world' request.organizationId app snapshot parameters)
    (habsent : start.store.row? .instances app.instanceId = none)
    (htrace : stops trace ≤ stops whole) :
    Effect start world' whole (.addInstance request) result.isOk := by
  have howner := hnew.owner
  rcases ends_writeAll_cons h with
    ⟨error, w₁, t₁, t₂, hfailed, hundo, rfl, rfl⟩ | ⟨w₁, t₁, t₂, hmade, hrest, rfl⟩
  · obtain ⟨rfl, hcause⟩ := ends_failed_write hfailed
    obtain ⟨row, hstore, hstops⟩ := ends_undo_row habsent hworld hundo
    refine effect_of_remains hstore t₂ (by simpa using hstops) hnew habsent nofun nofun
      (hcause.imp_right fun ⟨cause, hrefused⟩ => ?_) (by simpa using htrace)
    rw [hworld, howner] at hrefused
    -- the organization was found, and so the child was listed before
    rcases Memory.addChild_refused hrefused with hmissing | hlisted
    · have horganization := hnew.organization
      change start.store.row? .organizations request.organizationId = none at hmissing
      rw [hmissing] at horganization
      cases horganization
    · exact Or.inl hlisted
  · obtain ⟨hstored, -, rfl⟩ := ends_perform_ok hmade
    obtain ⟨hfree, henter⟩ := Memory.addChild_accepted hstored
    rw [hworld] at hfree henter
    rw [stops_append] at htrace
    refine effect_write_copy hrest ?_ hnew habsent hfree (by omega)
    show (Memory.perform _ world.store).2 = _
    rw [hworld]
    exact henter

end Writes

/-- **An instance is made with all that comes with it, or what remains of it
could not be undone.** -/
theorem effect_writes {start : World Memory} {request : NewInstance}
    {parameters : Option InstanceParameters} {result : Except RegistryError Instance}
    (h : (ExceptT.mk (UndoLog.empty.writeAll (creation app snapshot parameters)) >>=
      fun _ => pure app : Procedure Instance).Ends .memory world trace₂ result world')
    (hlooked : Looked start trace₁ world)
    (hnew : NewInstanceRows start world request.organizationId app snapshot parameters) :
    Effect start world' (trace₁ ++ trace₂) (.addInstance request) result.isOk := by
  have hids := h.extends.1
  have hnew : NewInstanceRows start world' request.organizationId app snapshot parameters :=
    { hnew with issued := hnew.issued.extend hids }
  obtain ⟨outcome, hwrites, heq⟩ := ends_answering h
  rw [heq]
  rcases ends_writeAll_cons hwrites with
    ⟨error, w₁, t₁, t₂, hfailed, hundo, rfl, rfl⟩ | ⟨w₁, t₁, t, hmade, hrest, rfl⟩
  -- the first write fails, with nothing to undo
  · obtain ⟨rfl, -⟩ := ends_failed_write hfailed
    obtain ⟨-, rfl⟩ := ends_runAll_nil rfl hundo
    exact .unchanged hlooked.store nofun
  · obtain ⟨hstored, -, rfl⟩ := ends_perform_ok hmade
    rw [hlooked.store] at hstored hrest
    obtain ⟨habsent, hput⟩ := Memory.add_accepted hstored
    refine effect_write_entry hrest hput hnew habsent ?_
    simp only [stops_append]
    omega

/-- A snapshot is made for one instance, and has the owner and the groups of its descriptor. -/
theorem snapshot_ok {descriptor : Descriptor} {instanceId : String} {groups : List DeviceGroup}
    {snapshot : Snapshot} (h : descriptor.snapshot instanceId groups = .ok snapshot) :
    snapshot.instanceId = instanceId ∧ snapshot.organizationId = descriptor.organizationId ∧
      snapshot.descriptorId = descriptor.descriptorId ∧ snapshot.groups = descriptor.groups := by
  rw [Descriptor.snapshot] at h
  rcases e : descriptor.rules.mapM
    (SecurityRule.resolved (deviceGroupIds groups) descriptor.organizationId) with error | rules
  · rw [e] at h
    cases h
  · rw [e] at h
    cases h
    exact ⟨rfl, rfl, rfl, rfl⟩

theorem effect_add {request : NewInstance} {result : Except RegistryError Instance}
    (hkeyed : world.store.Keyed)
    (h : (Instances.add request).Ends .memory world trace result world') :
    Effect world world' trace (.addInstance request) result.isOk := by
  obtain ⟨store, ids, clock⟩ := world
  refine (reads_validate _).effect h fun _ _ _ _ hvalid h => ?_
  refine (reads_requireOrganization _).effect h fun _ _ _ _ hrequired h => ?_
  refine (ChildKind.descriptor.reads_get _ _).effect h fun descriptor ids _ _ hget h => ?_
  have hplain := plain_of_ensureIdentifier (both_eq_ok_iff.mp (ends_validate_ok hvalid)).1
  have hthere := ends_requireOrganization_ok hrequired
  obtain ⟨-, hrow, howner⟩ := ChildKind.ends_get_ok hget
  have howner : descriptor.organizationId = request.organizationId := Option.some.inj howner
  -- the id is drawn before the last looks, which may still fail
  have h := ends_freshId_bind h
  refine (reads_listByOwner .deviceGroups descriptor.organizationId).effect_from (.fresh _ _ _) h
    fun groups _ _ _ _ hgroups h => ?_
  refine (reads_check _).effect_from ‹_› h fun snapshot _ _ _ hlooked hcheck h => ?_
  obtain ⟨-, hsnapshot, -⟩ := ends_check hcheck
  obtain ⟨hsnapshotKey, hsnapshotOwner, -⟩ := snapshot_ok hsnapshot.symm
  have h := ends_now_bind h
  dsimp only at h
  refine effect_writes h hlooked ?_
  exact {
    owner := rfl
    organization := hthere
    plain := hplain
    issued := IdSource.issued_next (hgroups.extends.1.trans hcheck.extends.1)
    descriptor := ⟨descriptor, groups, hkeyed.self hrow, howner, hsnapshot.symm⟩
    no_groups := rfl
    snapshot_key := hsnapshotKey
    snapshot_owner := hsnapshotOwner.trans howner
    parameters_key := by
      intro given hgiven
      obtain ⟨_, -, rfl⟩ := Option.map_eq_some_iff.mp hgiven
      rfl
    parameters_owner := by
      intro given hgiven
      obtain ⟨_, -, rfl⟩ := Option.map_eq_some_iff.mp hgiven
      rfl }

end Instances

end TenantRegistry
