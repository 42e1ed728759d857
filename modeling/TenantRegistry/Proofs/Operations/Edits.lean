/-
TenantRegistry/Proofs/Operations/Edits.lean

Operations that write over a row.

They fetch a row, and write it back with the same key and the same owner.  Two
calls write over a row; `Call.Edits` is either, and what becomes of it is said
once.  An operation is then a matter of which row was fetched.

Main result: `Call.Edits.effect`, and one lemma for each operation.
-/
import TenantRegistry.Proofs.Operations.Looks

namespace TenantRegistry

open Procedure

variable {world world' world'' : World Memory} {trace trace₁ trace₂ : List Attempt}

/-! ### Writing one row -/

/-- What becomes of a write whose answer is passed on, or replaced by another. -/
theorem ends_answering {α β : Type} {procedure : Procedure α} {g : α → β}
    {result : Except RegistryError β}
    (h : (procedure >>= fun value => pure (g value)).Ends .memory world trace result world') :
    ∃ outcome, procedure.Ends .memory world trace outcome world' ∧
      result.isOk = outcome.isOk := by
  rcases ends_bind h with ⟨error, hfirst, rfl⟩ | ⟨value, _, t₁, t₂, hfirst, hrest, rfl⟩
  · exact ⟨_, hfirst, rfl⟩
  · obtain ⟨rfl, rfl, rfl⟩ := ends_pure hrest
    rw [List.append_nil]
    exact ⟨_, hfirst, rfl⟩

/-- A call that writes over the row `before`, and the row that storage has after it. -/
inductive Call.Edits {table : Table} (before : table.Row) : Call → table.Row → Prop
  | update (row : table.Row) : Edits before (.update table row) row
  /-- The row is replaced under the revision that was fetched. -/
  | replace (row : table.Row) :
      Edits before (.replace table row (table.revision before))
        (table.withRevision row (table.revision before + 1))

/-- Storage accepts to write over a row, or nothing happens. -/
theorem Call.Edits.ends {table : Table} {before after : table.Row} {call : Call}
    (hcall : call.Edits before after) {result : Except RegistryError call.Answer}
    (h : (perform call).Ends .memory world trace result world') :
    (result.isOk = false ∧ world' = world) ∨
      (result.isOk = true ∧ world' = { world with store := world.store.put table after }) := by
  rcases ends_write h with ⟨error, _, rfl, rfl, -, -⟩ | ⟨answer, rfl, haccepted, -, rfl⟩
  · exact Or.inl ⟨rfl, rfl⟩
  cases hcall with
  | update row =>
    obtain ⟨-, hstore⟩ := Memory.update_accepted haccepted
    exact Or.inr ⟨rfl, by rw [hstore]⟩
  | replace row =>
    obtain ⟨_, -, -, rfl, hstore⟩ := Memory.replace_accepted haccepted
    exact Or.inr ⟨rfl, by rw [hstore]⟩

theorem Operation.irrevocable_of_edits {operation : Operation} {table : Table}
    (h : operation.edits? = some table) : operation.irrevocable = false := by
  cases operation <;> first | rfl | cases h

/-- **What an operation does that writes over a row**, from where all that it draws is drawn. -/
theorem Call.Edits.effect {start : World Memory} {table : Table} {before after : table.Row}
    {operation : Operation} {call : Call} {result : Except RegistryError call.Answer}
    (h : (perform call).Ends .memory world trace₂ result world')
    (hlooked : Looked start trace₁ world) (hkeyed : start.store.Keyed)
    (hcall : call.Edits before after)
    (hedit : Edit start.store start.ids world.ids operation table before after) :
    Effect start world' (trace₁ ++ trace₂) operation result.isOk := by
  rcases hcall.ends h with ⟨hfailed, rfl⟩ | ⟨hok, rfl⟩
  · refine .unchanged hlooked.store fun hirrevocable => ?_
    rw [Operation.irrevocable_of_edits hedit.edits] at hirrevocable
    cases hirrevocable
  · rw [hok, hlooked.store]
    exact .edited before after hedit.edits (hedit.present hkeyed) hedit.owner rfl hedit

/-- The same for a row that is updated and then answered. -/
theorem effect_update {start : World Memory} {table : Table} {before after : table.Row}
    {operation : Operation} {result : Except RegistryError table.Row}
    (h : (perform (.update table after) >>= fun _ => pure after).Ends .memory world trace₂ result
      world')
    (hlooked : Looked start trace₁ world) (hkeyed : start.store.Keyed)
    (hedit : Edit start.store start.ids world.ids operation table before after) :
    Effect start world' (trace₁ ++ trace₂) operation result.isOk := by
  obtain ⟨outcome, hupdate, heq⟩ := ends_answering h
  rw [heq]
  exact Call.Edits.effect hupdate hlooked hkeyed (.update after) hedit

/-- A row that was fetched is replaced by another document, under its revision. -/
theorem effect_replace {start : World Memory} {table : Table} (before : table.Row)
    {edited : table.Row} {revision : UInt64} {operation : Operation}
    {result : Except RegistryError table.Row}
    (h : (perform (.replace table edited revision)).Ends .memory world trace₂ result world')
    (hlooked : Looked start trace₁ world) (hkeyed : start.store.Keyed)
    (hrevision : revision = table.revision before)
    (hedit : Edit start.store start.ids world.ids operation table before
      (table.withRevision edited (table.revision before + 1))) :
    Effect start world' (trace₁ ++ trace₂) operation result.isOk := by
  subst hrevision
  exact Call.Edits.effect h hlooked hkeyed (.replace edited) hedit

/-- The same, for an operation that then answers something else. -/
theorem effect_replace_answering {β : Type} {start : World Memory} {table : Table}
    (before : table.Row) {edited : table.Row} {revision : UInt64} {answer : β}
    {operation : Operation} {result : Except RegistryError β}
    (h : (perform (.replace table edited revision) >>= fun _ => pure answer).Ends .memory world
      trace₂ result world')
    (hlooked : Looked start trace₁ world) (hkeyed : start.store.Keyed)
    (hrevision : revision = table.revision before)
    (hedit : Edit start.store start.ids world.ids operation table before
      (table.withRevision edited (table.revision before + 1))) :
    Effect start world' (trace₁ ++ trace₂) operation result.isOk := by
  obtain ⟨outcome, hreplace, heq⟩ := ends_answering h
  rw [heq]
  exact effect_replace before hreplace hlooked hkeyed hrevision hedit

/-! ### Operations that edit a row -/

theorem effect_of_throw {α : Type} {error : RegistryError} {result : Except RegistryError α}
    {operation : Operation}
    (h : (throw error : Procedure α).Ends .memory world trace result world') :
    Effect world world' trace operation result.isOk :=
  ((reads_throw error).looked h).effect

theorem reads_requireFreeName (name : String) (excepted : Option String) :
    (Organizations.requireFreeName name excepted).Reads := by
  refine (reads_perform (.list .organizations) trivial).bind fun found => ?_
  split
  · exact reads_throw _
  · exact reads_pure _

theorem Organizations.effect_update {edit : OrganizationEdit}
    {result : Except RegistryError Organization} (hkeyed : world.store.Keyed)
    (h : (Organizations.update edit).Ends .memory world trace result world') :
    Effect world world' trace (.updateOrganization edit) result.isOk := by
  obtain ⟨store, ids, clock⟩ := world
  refine (reads_validate _).effect h fun _ _ _ _ hvalid h => ?_
  refine (reads_perform (.get .organizations edit.organizationId) trivial).effect h
    fun organization _ _ _ hget h => ?_
  have hrow := ends_get_ok hget
  refine Procedure.Reads.effect ?_ h fun _ _ _ _ _ h => ?_
  · cases edit.name.filter (· ≠ organization.name) with
    | none => exact reads_pure _
    | some name => exact reads_requireFreeName _ _
  · exact effect_update h (.refl _) hkeyed (.organization (ends_validate_ok hvalid) hrow)

theorem Clusters.effect_update {edit : ClusterEdit} {result : Except RegistryError Cluster}
    (hkeyed : world.store.Keyed)
    (h : (Clusters.update edit).Ends .memory world trace result world') :
    Effect world world' trace (.updateCluster edit) result.isOk := by
  obtain ⟨store, ids, clock⟩ := world
  refine (reads_validate _).effect h fun _ _ _ _ hvalid h => ?_
  refine (ChildKind.cluster.reads_get _ _).effect h fun cluster _ _ _ hget h => ?_
  have hfetched := ChildKind.ends_get_ok hget
  exact effect_replace cluster h (.refl _) hkeyed rfl (.cluster (ends_validate_ok hvalid) hfetched)

/-- Moving the status of a cluster is an edit if the status changes. -/
theorem Clusters.effect_move {action : ClusterAction} {o c : String} {operation : Operation}
    {result : Except RegistryError Cluster} (hkeyed : world.store.Keyed)
    (hedit : ∀ {ids cluster status}, world.store.Fetched .cluster o c cluster →
      action.move cluster.status = .ok status → status ≠ cluster.status →
      Edit world.store ids ids operation .clusters cluster
        { cluster with status, revision := cluster.revision + 1 })
    (h : (Clusters.move action o c).Ends .memory world trace result world') :
    Effect world world' trace operation result.isOk := by
  obtain ⟨store, ids, clock⟩ := world
  refine (ChildKind.cluster.reads_get _ _).effect h fun cluster _ _ _ hget h => ?_
  have hfetched := ChildKind.ends_get_ok hget
  refine (reads_check _).effect h fun status _ _ _ hmoved h => ?_
  split at h
  · exact ((reads_pure _).looked h).effect
  · next hchanged =>
    obtain ⟨-, hmove, -⟩ := ends_check hmoved
    exact effect_replace cluster h (.refl _) hkeyed rfl (hedit hfetched hmove.symm hchanged)

theorem Nodes.effect_assign {o nodeId clusterId : String} {result : Except RegistryError Node}
    (hkeyed : world.store.Keyed)
    (h : (Nodes.assign o nodeId clusterId).Ends .memory world trace result world') :
    Effect world world' trace (.assignNode o nodeId clusterId) result.isOk := by
  obtain ⟨store, ids, clock⟩ := world
  refine (reads_validate _).effect h fun _ _ _ _ _ h => ?_
  refine (ChildKind.node.reads_get _ _).effect h fun node _ _ _ hget h => ?_
  have hfetched := ChildKind.ends_get_ok hget
  refine (ChildKind.cluster.reads_require _ _).effect h fun _ _ _ _ hrequired h => ?_
  have hlisted := ChildKind.ends_require_ok hrequired
  exact effect_update h (.refl _) hkeyed (.assignment hfetched hlisted)

theorem reads_renewed_service (service : Service) : service.renewed.Reads :=
  reads_freshId.bind fun _ => reads_pure _

theorem reads_renewed_group (group : ServiceGroup) : group.renewed.Reads :=
  reads_freshId.bind fun _ => (reads_mapM reads_renewed_service _).bind fun _ => reads_pure _

theorem reads_renewed_rule (rule : SecurityRule) : rule.renewed.Reads :=
  reads_freshId.bind fun _ => reads_pure _

/-- Groups stay, or all of them are given anew. -/
theorem reads_renewed_given (given : Option (List ServiceGroup)) (kept : List ServiceGroup) :
    (given.elim (pure kept) (·.mapM ServiceGroup.renewed) : Procedure (List ServiceGroup)).Reads := by
  cases given with
  | none => exact reads_pure _
  | some groups => exact reads_mapM reads_renewed_group groups

theorem Descriptors.effect_update {edit : DescriptorEdit}
    {result : Except RegistryError Descriptor} (hkeyed : world.store.Keyed)
    (h : (Descriptors.update edit).Ends .memory world trace result world') :
    Effect world world' trace (.updateDescriptor edit) result.isOk := by
  obtain ⟨store, ids, clock⟩ := world
  refine (reads_validate _).effect h fun _ _ _ _ hvalid h => ?_
  refine (ChildKind.descriptor.reads_get _ _).effect h fun descriptor _ _ _ hget h => ?_
  have hfetched := ChildKind.ends_get_ok hget
  refine (reads_renewed_given edit.groups descriptor.groups).effect_from (.refl _) h
    fun groups _ _ _ hlooked hgroups h => ?_
  refine effect_update h hlooked hkeyed (.descriptor (ends_validate_ok hvalid) hfetched ?_)
  cases e : edit.groups with
  | none =>
    rw [e] at hgroups
    obtain ⟨-, hsame, -⟩ := ends_pure hgroups
    exact Or.inl (Except.ok.inj hsame)
  | some given =>
    rw [e] at hgroups
    exact Or.inr (draws_renewed_groups hgroups).gave

namespace Instances

theorem ends_requireDescriptor_ok {app : Instance} {descriptorId : String}
    (h : (requireDescriptor app descriptorId).Ends .memory world trace (.ok ()) world') :
    app.descriptorId = descriptorId := by
  have hvalid := ends_validate_ok h
  rw [ensure] at hvalid
  split at hvalid
  · assumption
  · cases hvalid

theorem effect_addGroups {request : NewGroupInstances}
    {result : Except RegistryError (List GroupInstance)} (hkeyed : world.store.Keyed)
    (h : (addGroups request).Ends .memory world trace result world') :
    Effect world world' trace (.addGroupInstances request) result.isOk := by
  obtain ⟨store, ids, clock⟩ := world
  refine (reads_validate _).effect h fun _ _ _ _ hvalid h => ?_
  refine (ChildKind.descriptor.reads_require _ _).effect h fun _ _ _ _ hrequired h => ?_
  have hlisted := ChildKind.ends_require_ok hrequired
  refine (ChildKind.appInstance.reads_get _ _).effect h fun app _ _ _ hget h => ?_
  have hfetched := ChildKind.ends_get_ok hget
  refine (reads_validate _).effect h fun _ _ _ _ hrequired h => ?_
  have hmade := ends_requireDescriptor_ok hrequired
  refine (reads_perform (.get .snapshots request.instanceId) trivial).effect h
    fun snapshot _ _ _ hget h => ?_
  have hcopy := ends_get_ok hget
  split at h
  · exact effect_of_throw h
  · next group hgroup =>
    refine (reads_freshIds _).effect_from (.refl _) h fun given _ _ _ hlooked hgiven h => ?_
    obtain ⟨hdraws, hcount⟩ := draws_freshIds hgiven
    dsimp only at h
    exact effect_replace_answering app h hlooked hkeyed rfl
      (.groupInstances (ends_validate_ok hvalid) hlisted hfetched hmade hcopy hgroup hdraws.gave
        hcount)

theorem effect_addService {request : NewServiceInstance}
    {result : Except RegistryError ServiceInstance} (hkeyed : world.store.Keyed)
    (h : (addService request).Ends .memory world trace result world') :
    Effect world world' trace (.addServiceInstance request) result.isOk := by
  obtain ⟨store, ids, clock⟩ := world
  refine (reads_validate _).effect h fun _ _ _ _ hvalid h => ?_
  refine (ChildKind.descriptor.reads_get _ _).effect h fun descriptor _ _ _ hget h => ?_
  have hlive := ChildKind.ends_get_ok hget
  refine (ChildKind.appInstance.reads_get _ _).effect h fun app _ _ _ hget h => ?_
  have hfetched := ChildKind.ends_get_ok hget
  refine (reads_validate _).effect h fun _ _ _ _ hrequired h => ?_
  have hmade := ends_requireDescriptor_ok hrequired
  split at h
  · exact effect_of_throw h
  · next service hservice =>
    obtain ⟨group, hgroup, hoffered⟩ := Option.bind_eq_some_iff.mp hservice
    refine reads_freshId.effect_from (.refl _) h fun given _ _ _ hlooked hgiven h => ?_
    split at h
    · exact (hlooked.trans ((reads_throw _).looked h)).effect
    · next there hthere =>
      refine effect_replace_answering app h hlooked hkeyed rfl
        (.serviceInstance (ends_validate_ok hvalid) hlive hfetched hmade hgroup hoffered ?_
          (draws_freshId hgiven).gave)
      rw [hthere]
      exact nofun

theorem effect_report {request : StatusReport} {result : Except RegistryError Instance}
    (hkeyed : world.store.Keyed)
    (h : (report request).Ends .memory world trace result world') :
    Effect world world' trace (.reportStatus request) result.isOk := by
  obtain ⟨store, ids, clock⟩ := world
  refine (reads_validate _).effect h fun _ _ _ _ hvalid h => ?_
  refine (ChildKind.appInstance.reads_get _ _).effect h fun app _ _ _ hget h => ?_
  have hfetched := ChildKind.ends_get_ok hget
  split at h
  · exact effect_of_throw h
  · next group hgroup =>
    split at h
    · exact effect_of_throw h
    · next service hservice =>
      refine effect_replace app h (.refl _) hkeyed rfl
        (.report (ends_validate_ok hvalid) hfetched hgroup ?_)
      rw [hservice]
      exact nofun

theorem effect_setReplicas {o instanceId groupInstanceId : String} {available unavailable : UInt32}
    {result : Except RegistryError GroupInstance} (hkeyed : world.store.Keyed)
    (h : (setReplicas o instanceId groupInstanceId available unavailable).Ends .memory world trace
      result world') :
    Effect world world' trace (.setReplicas o instanceId groupInstanceId available unavailable)
      result.isOk := by
  obtain ⟨store, ids, clock⟩ := world
  refine (reads_validate _).effect h fun _ _ _ _ _ h => ?_
  refine (reads_validate _).effect h fun _ _ _ _ _ h => ?_
  refine (reads_validate _).effect h fun _ _ _ _ _ h => ?_
  refine (ChildKind.appInstance.reads_get _ _).effect h fun app _ _ _ hget h => ?_
  have hfetched := ChildKind.ends_get_ok hget
  split at h
  · exact effect_of_throw h
  · next group hgroup =>
    dsimp only at h
    refine effect_replace_answering app h (.refl _) hkeyed rfl (.replicas hfetched ?_)
    rw [hgroup]
    exact nofun

/-- Operations that fetch an instance and write it back with another document. -/
theorem effect_rewrite {o instanceId : String} (edit : Instance → Instance)
    (hrevision : ∀ app, (edit app).revision = app.revision) {operation : Operation}
    (hedit : ∀ {ids app}, world.store.Fetched .appInstance o instanceId app →
      Edit world.store ids ids operation .instances app
        { edit app with revision := app.revision + 1 })
    {result : Except RegistryError Instance} (hkeyed : world.store.Keyed)
    (h : Procedure.Ends .memory (do
      validate (ensureIdentifier "organization_id" o)
      validate (ensureIdentifier "app_instance_id" instanceId)
      let app ← get o instanceId
      Instances.store (edit app)) world trace result world') :
    Effect world world' trace operation result.isOk := by
  obtain ⟨store, ids, clock⟩ := world
  refine (reads_validate _).effect h fun _ _ _ _ _ h => ?_
  refine (reads_validate _).effect h fun _ _ _ _ _ h => ?_
  refine (ChildKind.appInstance.reads_get _ _).effect h fun app _ _ _ hget h => ?_
  have hfetched := ChildKind.ends_get_ok hget
  exact effect_replace app h (.refl _) hkeyed (hrevision app) (hedit hfetched)

end Instances

end TenantRegistry
