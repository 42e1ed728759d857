/-
TenantRegistry/Proofs/WellFormed.lean

Stored data stays well-formed.

Requests are validated, and what is stored is made of requests and of what was
stored before: the groups of a descriptor are those of a request under fresh ids,
a snapshot is a copy of a descriptor, and an instance is edited part by part.  So
what the rules ask of a request holds of every row, whatever operations led to it
and whatever calls were stopped.

All operations but two write rows of which `Draft` and `Edit` say enough
(`Effect.wellFormed`).  The two that write groups of a request into a descriptor
are followed call by call (`Descriptors.add_wellFormed`, `update_wellFormed`).

The inventory is kept by others, who may change it between operations (`Reached`).

Main result: `stored_rows_well_formed`.
-/
import TenantRegistry.Proofs.Deployments
import TenantRegistry.Proofs.Identifiers
import TenantRegistry.Proofs.Outcomes

namespace TenantRegistry

open Procedure

/-! ### Well-formed rows -/

/-- A descriptor with groups that can be deployed, and rules without device groups filled in. -/
structure Descriptor.WellFormed (descriptor : Descriptor) : Prop where
  groups : WellFormedGroups descriptor.groups
  rules : ∀ rule ∈ descriptor.rules, rule.WellFormed ∧ rule.deviceGroupIds = []

/-- The same for a snapshot, but with one device group filled in for each that a rule names. -/
structure Snapshot.WellFormed (snapshot : Snapshot) : Prop where
  groups : WellFormedGroups snapshot.groups
  rules : ∀ rule ∈ snapshot.rules,
    rule.WellFormed ∧ rule.deviceGroupIds.length = rule.deviceGroupNames.length

/-- A group instance of 1 to 1024 replicas, whose services can be reached where they say. -/
structure GroupInstance.WellFormed (group : GroupInstance) : Prop where
  replicas : 1 ≤ group.replicas.desired.toNat ∧ group.replicas.desired.toNat ≤ 1024
  endpoints : ∀ service ∈ group.services, ∀ endpoint ∈ service.endpoints, endpoint.WellFormed

/-- What is asked of a row. -/
def Table.WellFormed : (table : Table) → table.Row → Prop
  | .descriptors, row => row.WellFormed
  | .snapshots, row => row.WellFormed
  | .instances, row => ∀ group ∈ row.groups, group.WellFormed
  | _, _ => True

/-- All rows are well-formed. -/
def Memory.WellFormed (memory : Memory) : Prop :=
  ∀ ⦃table key row⦄, memory.row? table key = some row → table.WellFormed row

namespace Memory.WellFormed

variable {memory : Memory}

theorem empty : Memory.empty.WellFormed := by
  intro table key row hrow
  rw [row?_empty] at hrow
  cases hrow

theorem put (h : memory.WellFormed) {table : Table} {row : table.Row}
    (hrow : table.WellFormed row) : (memory.put table row).WellFormed := by
  intro other key found hfound
  by_cases hother : other = table
  · subst hother
    rw [row?_put_self] at hfound
    split at hfound
    · cases hfound
      exact hrow
    · exact h hfound
  · rw [row?_put_of_ne _ _ hother] at hfound
    exact h hfound

theorem drop (h : memory.WellFormed) (table : Table) (key : String) :
    (memory.drop table key).WellFormed := fun _ _ _ hrow => h (row?_of_drop hrow)

theorem enter (h : memory.WellFormed) (o : String) (kind : ChildKind) (c : String) :
    (memory.enter o kind c).WellFormed := h

theorem leave (h : memory.WellFormed) (o : String) (kind : ChildKind) (c : String) :
    (memory.leave o kind c).WellFormed := h

end Memory.WellFormed

/-- A call that puts well-formed rows leaves rows well-formed. -/
theorem Memory.WellFormed.perform {memory : Memory} (h : memory.WellFormed) {call : Call}
    (hcall : ∀ {table row}, call.Puts table row → table.WellFormed row) :
    (memory.perform call).2.WellFormed :=
  perform_induction h (fun hputs => h.put (hcall hputs)) (fun _ => h.drop _ _)
    (fun _ => h.enter _ _ _) fun _ => h.leave _ _ _

/-! ### Snapshots -/

/-- A rule is filled in with one id for each name. -/
theorem SecurityRule.resolved_ok {ids : OrderedMap String} {o : String}
    {rule resolved : SecurityRule} (h : rule.resolved ids o = .ok resolved) :
    ∃ deviceGroupIds, resolved = { rule with deviceGroupIds } ∧
      deviceGroupIds.length = rule.deviceGroupNames.length := by
  obtain ⟨found, hfound, h⟩ := bind_eq_ok_iff.mp h
  cases h
  exact ⟨found, rfl, (forall₂_of_mapM_eq_ok hfound).length_eq.symm⟩

/-- **The snapshot of a well-formed descriptor is well-formed.** -/
theorem Descriptor.WellFormed.snapshot {descriptor : Descriptor} {instanceId : String}
    {deviceGroups : List DeviceGroup} {snapshot : Snapshot} (h : descriptor.WellFormed)
    (hsnapshot : descriptor.snapshot instanceId deviceGroups = .ok snapshot) :
    snapshot.WellFormed := by
  obtain ⟨rules, hrules, hsnapshot⟩ := bind_eq_ok_iff.mp hsnapshot
  cases hsnapshot
  refine ⟨h.groups, forall_mem_of_forall₂ (forall₂_of_mapM_eq_ok hrules) ?_ h.rules⟩
  rintro rule resolved hresolved ⟨hrule, -⟩
  obtain ⟨found, rfl, hlength⟩ := SecurityRule.resolved_ok hresolved
  exact ⟨⟨hrule.name, hrule.port⟩, hlength⟩

/-! ### Instances -/

/-- **A well-formed instance that is edited stays well-formed.** -/
theorem Edit.wellFormed {memory : Memory} {ids ids' : IdSource} {operation : Operation}
    {table : Table} {before after : table.Row}
    (h : Edit memory ids ids' operation table before after)
    (hoperation : ∀ edit, operation ≠ .updateDescriptor edit)
    (hbefore : table.WellFormed before) : table.WellFormed after := by
  cases h with
  | organization | cluster | cordon | uncordon | assignment => trivial
  | descriptor => exact absurd rfl (hoperation _)
  | groupInstances valid =>
    intro made hmade
    rcases List.mem_append.mp hmade with hmade | hmade
    · exact hbefore made hmade
    · obtain ⟨id, -, rfl⟩ := List.mem_map.mp hmade
      exact ⟨(NewGroupInstances.validate_eq_ok_iff.mp valid).replicas, List.forall_mem_nil _⟩
  | serviceInstance =>
    intro made hmade
    rcases mem_editFirst hmade with hmade | ⟨group, hgroup, -, rfl⟩
    · exact hbefore made hmade
    · refine ⟨(hbefore group hgroup).replicas, fun service hservice => ?_⟩
      rcases List.mem_append.mp hservice with hservice | hservice
      · exact (hbefore group hgroup).endpoints service hservice
      · obtain rfl := List.mem_singleton.mp hservice
        exact List.forall_mem_nil _
  | report valid =>
    intro made hmade
    rcases mem_editFirst hmade with hmade | ⟨group, hgroup, -, rfl⟩
    · exact hbefore made hmade
    · refine ⟨(hbefore group hgroup).replicas, fun service hservice => ?_⟩
      rcases mem_editFirst hservice with hservice | ⟨reported, -, -, rfl⟩
      · exact (hbefore group hgroup).endpoints service hservice
      · exact (StatusReport.validate_eq_ok_iff.mp valid).endpoints
  | replicas =>
    intro made hmade
    rcases mem_editFirst hmade with hmade | ⟨group, hgroup, -, rfl⟩
    · exact hbefore made hmade
    · exact ⟨(hbefore group hgroup).replicas, (hbefore group hgroup).endpoints⟩
  | status => exact hbefore
  | noGroups => exact List.forall_mem_nil _

/-- A new row is well-formed, unless it is a descriptor. -/
theorem Draft.wellFormed {ids ids' : IdSource} {operation : Operation} {kind : ChildKind}
    {row : kind.Row} (h : Draft ids ids' operation kind row)
    (hoperation : ∀ request, operation ≠ .addDescriptor request) : kind.table.WellFormed row := by
  cases h with
  | cluster | node | user | role => trivial
  | descriptor => exact absurd rfl (hoperation _)

/-! ### Operations on anything but descriptors -/

section Operations

variable {world world' : World Memory} {trace : List Attempt} {operation : Operation}
  {succeeded : Bool}

/-- Whatever remains of the writes that make an instance is well-formed. -/
theorem NewInstanceRows.wellFormed {o : String} {app : Instance} {snapshot : Snapshot}
    {parameters : Option InstanceParameters}
    (h : NewInstanceRows world world' o app snapshot parameters)
    (hbefore : world.store.WellFormed) (row entry copy : Bool) :
    (world.store.remains app snapshot row entry copy).WellFormed := by
  have happ : Table.WellFormed .instances app := by
    show ∀ group ∈ app.groups, group.WellFormed
    rw [h.no_groups]
    exact List.forall_mem_nil _
  have hsnapshot : Table.WellFormed .snapshots snapshot := by
    obtain ⟨descriptor, deviceGroups, hrow, -, hsnapshot⟩ := h.descriptor
    exact (hbefore hrow).snapshot hsnapshot
  exact Memory.remains_induction hbefore (fun h => h.put happ) (fun _ h => h.enter _ _ _)
    (fun _ h => h.put hsnapshot) row entry copy

/-- **Every operation that writes no groups of a request leaves rows well-formed**, whatever is
stopped. -/
theorem Effect.wellFormed (h : Effect world world' trace operation succeeded)
    (hadd : ∀ request, operation ≠ .addDescriptor request)
    (hupdate : ∀ edit, operation ≠ .updateDescriptor edit)
    (hbefore : world.store.WellFormed) : world'.store.WellFormed := by
  cases h with
  | unchanged store => exact store ▸ hbefore
  | founded _ _ _ store => exact store ▸ hbefore.put trivial
  | edited before after _ present _ store edit =>
    exact store ▸ hbefore.put (edit.wellFormed hupdate (hbefore present))
  | registered row _ _ _ store draft =>
    exact store ▸ (hbefore.put (draft.wellFormed hadd)).enter _ _ _
  | stored row _ _ _ store draft => exact store ▸ hbefore.put (draft.wellFormed hadd)
  | removed _ _ _ _ _ store => exact store ▸ (hbefore.drop _ _).leave _ _ _
  | @removedInstance o i app copy given _ _ _ store =>
    rw [store]
    exact Memory.removed_induction ((hbefore.drop .instances i).leave o .appInstance i)
      (fun h => h.drop _ _) (fun _ h => h.drop _ _) copy given
  | dropped _ _ _ _ _ _ store => exact store ▸ hbefore.drop _ _
  | unlisted _ _ _ store => exact store ▸ hbefore.leave _ _ _
  | launched app snapshot parameters new _ _ _ _ store =>
    rw [store]
    cases parameters with
    | none => exact new.wellFormed hbefore true true true
    | some given => exact (new.wellFormed hbefore true true true).put trivial
  | remaining app snapshot _ new row entry copy _ _ _ _ _ store =>
    exact store ▸ new.wellFormed hbefore row entry copy

end Operations

/-! ### Descriptors -/

section Descriptors

variable {α β : Type} {world world' : World Memory} {trace : List Attempt}

/-- What holds of storage holds after a look, and so it is a matter of what follows. -/
theorem Procedure.Reads.keeps {procedure : Procedure α} {f : α → Procedure β}
    {result : Except RegistryError β} {holds : Memory → Prop} (hreads : procedure.Reads)
    (hbefore : holds world.store)
    (h : (procedure >>= f).Ends .memory world trace result world')
    (hrest : ∀ value ⦃between first rest⦄, holds between.store →
      procedure.Ends .memory world first (.ok value) between →
      (f value).Ends .memory between rest result world' → holds world'.store) :
    holds world'.store := by
  rcases hreads.split h with ⟨-, hlooked⟩ | ⟨value, w, t₁, t₂, hfirst, hlooked, hsecond, -⟩
  · exact hlooked.store ▸ hbefore
  · exact hrest value (hlooked.store ▸ hbefore) hfirst hsecond

/-- What the elements of a list are made into. -/
theorem forall₂_of_ends_mapM {f : α → Procedure β} {R : α → β → Prop}
    (hf : ∀ ⦃x world trace y world'⦄, (f x).Ends .memory world trace (.ok y) world' → R x y)
    {xs : List α} {ys : List β}
    (h : (xs.mapM f).Ends .memory world trace (.ok ys) world') : List.Forall₂ R xs ys := by
  induction xs generalizing ys world trace world' with
  | nil =>
    rw [List.mapM_nil] at h
    obtain ⟨-, hys, -⟩ := ends_pure h
    cases hys
    exact .nil
  | cons x xs ih =>
    rw [List.mapM_cons] at h
    obtain ⟨y, w₁, t₁, t, hy, h, -⟩ := ends_bind_ok h
    obtain ⟨rest, w₂, t₂, t₃, hrest, h, -⟩ := ends_bind_ok h
    obtain ⟨-, hys, -⟩ := ends_pure h
    cases hys
    exact .cons (hf hy) (ih hrest)

theorem map_eq_of_forall₂ {γ : Type} {g : α → γ} {xs ys : List α}
    (h : List.Forall₂ (fun x y => g y = g x) xs ys) : ys.map g = xs.map g := by
  rw [← List.forall₂_eq_eq_eq, List.forall₂_map_left_iff, List.forall₂_map_right_iff]
  exact h.flip

/-- A renewed group is as it was but for its ids. -/
theorem ServiceGroup.withoutIds_renewed {group renewed : ServiceGroup}
    (h : group.renewed.Ends .memory world trace (.ok renewed) world') :
    renewed.withoutIds = group.withoutIds := by
  obtain ⟨id, w₁, t₁, t, -, h, -⟩ := ends_bind_ok h
  obtain ⟨services, w₂, t₂, t₃, hservices, h, -⟩ := ends_bind_ok h
  obtain ⟨-, hrenewed, -⟩ := ends_pure h
  cases hrenewed
  have hsame : services.map Service.withoutId = group.services.map Service.withoutId := by
    refine map_eq_of_forall₂ (forall₂_of_ends_mapM ?_ hservices)
    intro service world trace renewed world' h
    obtain ⟨id, w, t₁, t₂, -, h, -⟩ := ends_bind_ok h
    obtain ⟨-, hrenewed, -⟩ := ends_pure h
    cases hrenewed
    rfl
  rw [withoutIds, hsame, withoutIds]

/-- **Renewed groups are well-formed if the groups of the request are.** -/
theorem wellFormedGroups_renewed {groups renewed : List ServiceGroup}
    (h : (groups.mapM ServiceGroup.renewed).Ends .memory world trace (.ok renewed) world')
    (hvalid : validateServiceGroups groups = .ok ()) : WellFormedGroups renewed := by
  -- the rules for groups say nothing of ids
  have hsame : renewed.map ServiceGroup.withoutIds = groups.map ServiceGroup.withoutIds :=
    map_eq_of_forall₂ (forall₂_of_ends_mapM (fun _ _ _ _ _ => ServiceGroup.withoutIds_renewed) h)
  rw [← validateServiceGroups_eq_ok_iff, ← validateServiceGroups_withoutIds, hsame,
    validateServiceGroups_withoutIds, hvalid]

/-- A rule of a request is written without device groups filled in. -/
theorem wellFormed_renewed_rules {rules renewed : List SecurityRule}
    (h : (rules.mapM SecurityRule.renewed).Ends .memory world trace (.ok renewed) world')
    (hvalid : ∀ rule ∈ rules, rule.WellFormed) :
    ∀ rule ∈ renewed, rule.WellFormed ∧ rule.deviceGroupIds = [] := by
  have hrenewed : List.Forall₂ (fun rule renewed : SecurityRule =>
      ∃ ruleId, renewed = { rule with ruleId, deviceGroupIds := [] }) rules renewed := by
    refine forall₂_of_ends_mapM (fun rule world trace renewed world' h => ?_) h
    obtain ⟨id, w, t₁, t₂, -, h, -⟩ := ends_bind_ok h
    obtain ⟨-, hrenewed, -⟩ := ends_pure h
    cases hrenewed
    exact ⟨id, rfl⟩
  refine forall_mem_of_forall₂ hrenewed ?_ hvalid
  rintro rule - ⟨id, rfl⟩ hrule
  exact ⟨⟨hrule.name, hrule.port⟩, rfl⟩

/-- **A call that puts well-formed rows leaves rows well-formed**, whether it is made or stopped. -/
theorem ends_perform_wellFormed {call : Call} {result : Except RegistryError call.Answer}
    (hbefore : world.store.WellFormed)
    (h : (perform call).Ends .memory world trace result world')
    (hcall : ∀ {table row}, call.Puts table row → table.WellFormed row) :
    world'.store.WellFormed := by
  rcases ends_perform h with ⟨_, -, -, rfl⟩ | ⟨-, -, rfl⟩
  · exact hbefore
  · exact hbefore.perform hcall

theorem ends_add_wellFormed {table : Table} {row : table.Row} {result : Except RegistryError Unit}
    (hbefore : world.store.WellFormed)
    (h : (perform (.add table row)).Ends .memory world trace result world')
    (hrow : table.WellFormed row) : world'.store.WellFormed := by
  refine ends_perform_wellFormed hbefore h fun hputs => ?_
  cases hputs
  exact hrow

theorem Descriptors.add_wellFormed {request : NewDescriptor}
    {result : Except RegistryError Descriptor} (hbefore : world.store.WellFormed)
    (h : (Descriptors.add request).Ends .memory world trace result world') :
    world'.store.WellFormed := by
  refine (reads_validate _).keeps hbefore h fun _ _ _ _ hbefore hvalid h => ?_
  refine (reads_requireOrganization _).keeps hbefore h fun _ _ _ _ hbefore _ h => ?_
  refine reads_freshId.keeps hbefore h fun id _ _ _ hbefore _ h => ?_
  refine (reads_mapM reads_renewed_rule _).keeps hbefore h fun rules _ _ _ hbefore hrules h => ?_
  refine (reads_mapM reads_renewed_group _).keeps hbefore h
    fun groups _ _ _ hbefore hgroups h => ?_
  have h := ends_now_bind h
  -- what is stored is made of the request
  have hvalid := ends_validate_ok hvalid
  simp only [NewDescriptor.validate, both_eq_ok_iff, ensureEach_eq_ok_iff,
    SecurityRule.validate_eq_ok_iff] at hvalid
  obtain ⟨-, -, hvalidgroups, hvalidrules⟩ := hvalid
  have hgroups := wellFormedGroups_renewed hgroups hvalidgroups
  have hrules := wellFormed_renewed_rules hrules hvalidrules
  rcases ends_bind h with ⟨_, hadd, -⟩ | ⟨_, _, _, _, hadd, h, -⟩
  · exact ends_add_wellFormed hbefore hadd ⟨hgroups, hrules⟩
  · have hadded := ends_add_wellFormed hbefore hadd ⟨hgroups, hrules⟩
    obtain ⟨_, hchild, -⟩ := ends_answering h
    refine ends_perform_wellFormed hadded hchild fun hputs => ?_
    cases hputs

theorem Descriptors.update_wellFormed {edit : DescriptorEdit}
    {result : Except RegistryError Descriptor} (hbefore : world.store.WellFormed)
    (h : (Descriptors.update edit).Ends .memory world trace result world') :
    world'.store.WellFormed := by
  refine (reads_validate _).keeps hbefore h fun _ _ _ _ hbefore hvalid h => ?_
  refine (ChildKind.descriptor.reads_get _ _).keeps hbefore h
    fun descriptor _ _ _ hstill hget h => ?_
  have hdescriptor : descriptor.WellFormed := hbefore (ChildKind.ends_get_ok hget).present
  refine (reads_renewed_given edit.groups descriptor.groups).keeps hstill h
    fun groups _ _ _ hstill hgroups h => ?_
  have hvalid := ends_validate_ok hvalid
  simp only [DescriptorEdit.validate, both_eq_ok_iff] at hvalid
  obtain ⟨-, -, -, hvalid⟩ := hvalid
  -- the groups are those that were there, or those of the edit
  have hgroups : WellFormedGroups groups := by
    cases e : edit.groups with
    | none =>
      rw [e] at hgroups
      obtain ⟨-, hsame, -⟩ := ends_pure hgroups
      cases hsame
      exact hdescriptor.groups
    | some given =>
      rw [e] at hgroups hvalid
      exact wellFormedGroups_renewed hgroups hvalid
  obtain ⟨_, hupdate, -⟩ := ends_answering h
  refine ends_perform_wellFormed hstill hupdate fun hputs => ?_
  cases hputs
  exact ⟨hgroups, hdescriptor.rules⟩

end Descriptors

/-- **Every operation leaves rows well-formed**, whatever is stopped. -/
theorem Operation.wellFormed {operation : Operation} {world world' : World Memory}
    {trace : List Attempt} {result : Except RegistryError operation.Answer}
    (hkeyed : world.store.Keyed) (hbefore : world.store.WellFormed)
    (h : operation.procedure.Ends .memory world trace result world') :
    world'.store.WellFormed := by
  by_cases hadd : ∃ request, operation = .addDescriptor request
  · obtain ⟨request, rfl⟩ := hadd
    exact Descriptors.add_wellFormed hbefore h
  by_cases hupdate : ∃ edit, operation = .updateDescriptor edit
  · obtain ⟨edit, rfl⟩ := hupdate
    exact Descriptors.update_wellFormed hbefore h
  exact (operation.effect hkeyed h).wellFormed (not_exists.mp hadd) (not_exists.mp hupdate) hbefore

/-! ### States that are reached -/

/-- Nothing is asked of the inventory. -/
theorem Call.OnInventory.wellFormed {call : Call} (h : call.OnInventory) {table : Table}
    {row : table.Row} (hputs : call.Puts table row) : table.WellFormed row := by
  have htable := h.inventory hputs
  cases table <;> trivial

/-- **A step leaves rows well-formed**, and such that they can be read and stand under their own
keys. -/
theorem Step.wellFormed {world world' : World Store} {happening : Happening}
    (h : Step world happening world')
    (hbefore : (world.store.Faithful ∧ world.store.contents.Keyed) ∧
      world.store.contents.WellFormed) :
    (world'.store.Faithful ∧ world'.store.contents.Keyed) ∧ world'.store.contents.WellFormed := by
  obtain ⟨⟨hfaithful, hkeyed⟩, hwellFormed⟩ := hbefore
  refine ⟨h.faithful ⟨hfaithful, hkeyed⟩, ?_⟩
  cases h with
  | @operation _ operation time _ _ ends =>
    exact operation.wellFormed hkeyed hwellFormed (Program.ends_contents ends hfaithful).1
  | @inventory call aside =>
    obtain ⟨-, hcontents, -⟩ := hfaithful.perform call
    exact hcontents ▸ hwellFormed.perform aside.wellFormed

/-- **Every row of a state that is reached is well-formed**, can be read, and stands under its own
key. -/
theorem Reached.wellFormed {world : World Store} (h : Reached world) :
    (world.store.Faithful ∧ world.store.contents.Keyed) ∧ world.store.contents.WellFormed := by
  obtain ⟨start, happenings, hfresh, hrun⟩ := h
  refine hrun.keeps ?_ fun _ _ _ => Step.wellFormed
  rw [hfresh.contents_eq]
  exact ⟨⟨hfresh.faithful, Memory.keyed_empty⟩, .empty⟩

/-- **Stored data stays well-formed**, whatever operations were done and whatever calls were
stopped: this is what is known of every row that is fetched. -/
theorem stored_rows_well_formed {world : World Store} (h : Reached world) {table : Table}
    {key : String} {row : table.Row} (hrow : (world.store.perform (.get table key)).1 = .ok row) :
    table.WellFormed row := by
  obtain ⟨⟨hfaithful, -⟩, hwellFormed⟩ := h.wellFormed
  exact hwellFormed (hfaithful.get_eq_ok.mp hrow)

/-- A snapshot that was left behind by a failed rollback names the device group of its rule. -/
theorem stored_rows_well_formed_of_left_snapshot :
    let start : World Store :=
      { store := .memory .empty, ids := .sequential "id", clock := 0 }
    let service : Service := { (default : Service) with name := "api", image := "api:1" }
    let group : ServiceGroup :=
      { (default : ServiceGroup) with name := "web", services := [service] }
    let rule : SecurityRule :=
      { (default : SecurityRule) with
        name := "sensors", targetPort := 443, deviceGroupNames := ["sensors"] }
    let sensors : DeviceGroup :=
      { (default : DeviceGroup) with
        organizationId := "id-1", deviceGroupId := "dg-1", name := "sensors" }
    let disk : StoreError := .write "disk"
    let founded := start.afterStopping
      [(.addOrganization { (default : NewOrganization) with name := "acme" }, 1, [])]
    let stocked : World Store :=
      { founded with store := (founded.store.perform (.add .deviceGroups sensors)).2 }
    let world := stocked.afterStopping
      [(.addDescriptor { (default : NewDescriptor) with
          organizationId := "id-1", name := "shop", rules := [rule], groups := [group] }, 2, []),
        (.addInstance { (default : NewInstance) with
          organizationId := "id-1", descriptorId := "id-2", name := "shop"
          parameters := some [] }, 3,
          [none, none, none, none, none, none, none, some disk, some disk])]
    (world.store.perform (.contains .instances "id-6")).1 = .ok false ∧
      ∃ snapshot : Snapshot, (world.store.perform (.get .snapshots "id-6")).1 = .ok snapshot ∧
        snapshot.rules.map (·.deviceGroupIds) = [["dg-1"]] ∧
        Table.WellFormed .snapshots snapshot := by
  intro start service group rule sensors disk founded stocked world
  have hfounded : Reached founded := by
    obtain ⟨events, hruns⟩ := (Runs.start : Runs start [] start).afterStopping _
    exact hruns.reached (.empty (Or.inl rfl))
  have hworld : Reached world := by
    have hstocked : Reached stocked := hfounded.inventory (.add .deviceGroups sensors) trivial
    obtain ⟨events, hruns⟩ := (Runs.start : Runs stocked [] stocked).afterStopping _
    exact hruns.reached hstocked
  have hrules : ((world.store.perform (.get .snapshots "id-6")).1.toOption.map
      fun snapshot : Snapshot => snapshot.rules.map (·.deviceGroupIds)) = some [["dg-1"]] := by
    decide +kernel
  obtain ⟨snapshot, hsnapshot, hrules⟩ := Option.map_eq_some_iff.mp hrules
  have hrow := toOption_eq_some_iff.mp hsnapshot
  exact ⟨by decide +kernel, snapshot, hrow, hrules, stored_rows_well_formed hworld hrow⟩

end TenantRegistry
