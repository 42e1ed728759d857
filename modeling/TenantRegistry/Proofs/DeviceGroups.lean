/-
TenantRegistry/Proofs/DeviceGroups.lean

How the rules of a descriptor find device groups.

A rule names device groups, and the snapshot of a descriptor has their ids next
to the names.  They are looked up among the device groups of the organization
that owns the descriptor.  Nothing keeps two of these from sharing a name; the
one with the greatest id counts then, because they are read in the order of
their keys and the last one wins (`get?_deviceGroupIds`).

A name without a device group fails the whole snapshot, and so the instance
that it was for, before anything is written.

Main result: `Instances.snapshot_resolves`.
-/
import TenantRegistry.Proofs.Agreement
import TenantRegistry.Proofs.Outcomes
import TenantRegistry.Proofs.WellFormed

namespace TenantRegistry

open Procedure

/-! ### Device groups by name -/

/-- The last of the device groups is entered last. -/
theorem deviceGroupIds_concat (groups : List DeviceGroup) (last : DeviceGroup) :
    deviceGroupIds (groups ++ [last]) =
      (deviceGroupIds groups).insert last.name last.deviceGroupId := by
  rw [deviceGroupIds, List.map_append, OrderedMap.ofList, List.foldl_append]
  rfl

theorem get?_deviceGroupIds_eq_none {groups : List DeviceGroup} {name : String} :
    (deviceGroupIds groups).get? name = none ↔ ∀ group ∈ groups, group.name ≠ name := by
  induction groups using List.reverseRecOn with
  | nil => exact iff_of_true rfl (List.forall_mem_nil _)
  | append_singleton groups last ih =>
    rw [deviceGroupIds_concat, OrderedMap.get?_insert, List.forall_mem_append,
      List.forall_mem_singleton]
    split
    · next heq => exact iff_of_false nofun fun h => h.2 heq.symm
    · next hne => exact ih.trans (and_iff_left fun heq => hne heq.symm).symm

/-- **Of device groups in the order of their ids the greatest of a name counts.** -/
theorem get?_deviceGroupIds {groups : List DeviceGroup}
    (h : (groups.map (·.deviceGroupId)).Pairwise (· < ·)) {name id : String}
    (hid : (deviceGroupIds groups).get? name = some id) :
    (∃ group ∈ groups, group.name = name ∧ group.deviceGroupId = id) ∧
      ∀ group ∈ groups, group.name = name → group.deviceGroupId ≤ id := by
  induction groups using List.reverseRecOn with
  | nil => cases hid
  | append_singleton groups last ih =>
    rw [List.map_append, List.pairwise_append] at h
    obtain ⟨hgroups, -, hlast⟩ := h
    rw [deviceGroupIds_concat, OrderedMap.get?_insert] at hid
    split at hid
    · next heq =>
      cases hid
      refine ⟨⟨last, List.mem_append_right _ (List.mem_singleton_self _), heq.symm, rfl⟩, ?_⟩
      intro group hmem _
      rcases List.mem_append.mp hmem with hmem | hmem
      · have hlt := hlast _ (List.mem_map_of_mem hmem) _ (List.mem_singleton_self _)
        exact String.not_lt.mp (String.lt_asymm hlt)
      · obtain rfl := List.mem_singleton.mp hmem
        exact String.le_refl _
    · next hne =>
      obtain ⟨⟨found, hmem, hname, hfound⟩, hgreatest⟩ := ih hgroups hid
      refine ⟨⟨found, List.mem_append_left _ hmem, hname, hfound⟩, fun group hmem hname => ?_⟩
      rcases List.mem_append.mp hmem with hmem | hmem
      · exact hgreatest group hmem hname
      -- the last one has another name
      · obtain rfl := List.mem_singleton.mp hmem
        exact absurd hname.symm hne

/-! ### What a descriptor finds -/

namespace Memory

/-- An organization owns a device group of that name under that id. -/
def HasDeviceGroup (memory : Memory) (organizationId name deviceGroupId : String) : Prop :=
  ∃ (key : String) (group : DeviceGroup), memory.row? .deviceGroups key = some group ∧
    group.organizationId = organizationId ∧ group.name = name ∧
    group.deviceGroupId = deviceGroupId

/-- The greatest id of the device groups of that name that an organization owns. -/
def GreatestDeviceGroup (memory : Memory) (organizationId name deviceGroupId : String) : Prop :=
  memory.HasDeviceGroup organizationId name deviceGroupId ∧
    ∀ other, memory.HasDeviceGroup organizationId name other → other ≤ deviceGroupId

/-- Device groups are stored under their own ids. -/
def DeviceGroupsKeyed (memory : Memory) : Prop :=
  ∀ (key : String) (group : DeviceGroup), memory.row? .deviceGroups key = some group →
    group.deviceGroupId = key

variable {memory : Memory} {o name id : String}

theorem hasDeviceGroup_iff : memory.HasDeviceGroup o name id ↔
    ∃ group ∈ memory.ownedRows .deviceGroups o, group.name = name ∧ group.deviceGroupId = id := by
  have hmem : ∀ group : DeviceGroup, group ∈ memory.ownedRows .deviceGroups o ↔
      (∃ key, memory.row? .deviceGroups key = some group) ∧ group.organizationId = o := by
    intro group
    rw [ownedRows, List.mem_filter, OrderedMap.mem_values_iff, decide_eq_true_eq]
    exact and_congr_right' (Option.some.injEq _ _).to_iff
  constructor
  · rintro ⟨key, group, hrow, howner, hname⟩
    exact ⟨group, (hmem group).mpr ⟨⟨key, hrow⟩, howner⟩, hname⟩
  · rintro ⟨group, hgroup, hname⟩
    obtain ⟨⟨key, hrow⟩, howner⟩ := (hmem group).mp hgroup
    exact ⟨key, group, hrow, howner, hname⟩

/-- Device groups under their own ids are read in the order of their ids. -/
theorem DeviceGroupsKeyed.pairwise (h : memory.DeviceGroupsKeyed) (o : String) :
    ((memory.ownedRows .deviceGroups o).map (·.deviceGroupId)).Pairwise (· < ·) := by
  have hids : ((memory.rows .deviceGroups).values.map (·.deviceGroupId)) =
      (memory.rows .deviceGroups).keys := by
    rw [OrderedMap.values, OrderedMap.keys, List.map_map]
    exact List.map_congr_left fun entry hentry =>
      h entry.1 entry.2 (OrderedMap.get?_eq_some_iff.mpr hentry)
  have hascending := (memory.rows .deviceGroups).pairwise_keys
  rw [← hids] at hascending
  exact hascending.sublist (List.filter_sublist.map _)

/-- What an organization owns in a table does not depend on what others do. -/
theorem ownedRows_congr {other : Memory} {table : Table}
    (h : ∀ key (row : table.Row), table.owner? row = some o →
      (other.row? table key = some row ↔ memory.row? table key = some row)) :
    other.ownedRows table o = memory.ownedRows table o := by
  -- a filter is a reading of every value, and readings are equal that are under the same keys
  have hread : ∀ memory : Memory, memory.ownedRows table o =
      ((memory.rows table).filterMap
        (Option.guard fun row => decide (table.owner? row = some o))).values := by
    intro memory
    rw [OrderedMap.values_filterMap, List.filterMap_eq_filter]
    rfl
  rw [hread, hread]
  refine congrArg OrderedMap.values (OrderedMap.ext_get? fun key => Option.ext fun row => ?_)
  simp only [OrderedMap.get?_filterMap, Option.bind_eq_some_iff, Option.guard_eq_some_iff,
    decide_eq_true_eq]
  constructor
  · rintro ⟨found, hrow, rfl, howner⟩
    exact ⟨found, (h key found howner).mp hrow, rfl, howner⟩
  · rintro ⟨found, hrow, rfl, howner⟩
    exact ⟨found, (h key found howner).mpr hrow, rfl, howner⟩

end Memory

/-- A rule of a descriptor names a device group that the organization does not have. -/
def Descriptor.Misses (descriptor : Descriptor) (memory : Memory) (name : String) : Prop :=
  (∃ rule ∈ descriptor.rules, name ∈ rule.deviceGroupNames) ∧
    ∀ id, ¬ memory.HasDeviceGroup descriptor.organizationId name id

/-- A rule with the ids of the device groups that it names filled in, and nothing else. -/
structure SecurityRule.ResolvedBy (rule : SecurityRule) (memory : Memory) (organizationId : String)
    (resolved : SecurityRule) : Prop where
  others : resolved = { rule with deviceGroupIds := resolved.deviceGroupIds }
  ids : List.Forall₂ (memory.GreatestDeviceGroup organizationId) rule.deviceGroupNames
    resolved.deviceGroupIds

/-- A snapshot with the rules of its descriptor resolved, and nothing else of it changed. -/
structure Descriptor.CopiedTo (descriptor : Descriptor) (memory : Memory) (instanceId : String)
    (snapshot : Snapshot) : Prop where
  others : snapshot = {
    instanceId
    organizationId := descriptor.organizationId
    descriptorId := descriptor.descriptorId
    name := descriptor.name
    configurationOptions := descriptor.configurationOptions
    environmentVariables := descriptor.environmentVariables
    labels := descriptor.labels
    rules := snapshot.rules
    groups := descriptor.groups }
  rules : List.Forall₂
    (fun rule resolved => rule.ResolvedBy memory descriptor.organizationId resolved)
    descriptor.rules snapshot.rules

/-! ### Snapshots -/

section Snapshots

variable {memory : Memory} {o : String} {rule resolved : SecurityRule}

/-- A rule fails with a name that no device group has. -/
theorem SecurityRule.resolved_error {ids : OrderedMap String} {error : RegistryError}
    (h : rule.resolved ids o = .error error) :
    ∃ name ∈ rule.deviceGroupNames, ids.get? name = none ∧
      error = .notFound (.deviceGroup name o) := by
  rcases bind_eq_error_iff.mp h with hids | ⟨found, -, h⟩
  · obtain ⟨name, hmem, hname⟩ := exists_of_mapM_eq_error hids
    cases hget : ids.get? name with
    | none =>
      rw [hget] at hname
      cases hname
      exact ⟨name, hmem, hget, rfl⟩
    | some id =>
      rw [hget] at hname
      cases hname
  · cases h

/-- A rule is resolved by what the names stand for. -/
theorem resolvedBy_of_resolved (hkeyed : memory.DeviceGroupsKeyed)
    (h : rule.resolved (deviceGroupIds (memory.ownedRows .deviceGroups o)) o = .ok resolved) :
    rule.ResolvedBy memory o resolved := by
  obtain ⟨ids, hids, h⟩ := bind_eq_ok_iff.mp h
  cases h
  refine ⟨rfl, (forall₂_of_mapM_eq_ok hids).imp fun name id hname => ?_⟩
  cases hget : (deviceGroupIds (memory.ownedRows .deviceGroups o)).get? name with
  | none =>
    rw [hget] at hname
    cases hname
  | some found =>
    rw [hget] at hname
    cases hname
    obtain ⟨hhas, hgreatest⟩ := get?_deviceGroupIds (hkeyed.pairwise o) hget
    refine ⟨Memory.hasDeviceGroup_iff.mpr hhas, fun other hother => ?_⟩
    obtain ⟨group, hmem, hsame, rfl⟩ := Memory.hasDeviceGroup_iff.mp hother
    exact hgreatest group hmem hsame

namespace Descriptor

variable {descriptor : Descriptor} {instanceId : String}

/-- A snapshot fails with a name that is missed. -/
theorem snapshot_error {error : RegistryError}
    (h : descriptor.snapshot instanceId
      (memory.ownedRows .deviceGroups descriptor.organizationId) = .error error) :
    ∃ name, descriptor.Misses memory name ∧
      error = .notFound (.deviceGroup name descriptor.organizationId) := by
  rcases bind_eq_error_iff.mp h with hrules | ⟨rules, -, h⟩
  · obtain ⟨rule, hrule, hfailed⟩ := exists_of_mapM_eq_error hrules
    obtain ⟨name, hname, hnone, herror⟩ := SecurityRule.resolved_error hfailed
    refine ⟨name, ⟨⟨rule, hrule, hname⟩, fun id hhas => ?_⟩, herror⟩
    obtain ⟨group, hmem, hsame, -⟩ := Memory.hasDeviceGroup_iff.mp hhas
    exact get?_deviceGroupIds_eq_none.mp hnone group hmem hsame
  · cases h

/-- A snapshot that is made is a copy of its descriptor. -/
theorem copiedTo_of_snapshot (hkeyed : memory.DeviceGroupsKeyed) {snapshot : Snapshot}
    (h : descriptor.snapshot instanceId
      (memory.ownedRows .deviceGroups descriptor.organizationId) = .ok snapshot) :
    descriptor.CopiedTo memory instanceId snapshot := by
  obtain ⟨rules, hrules, h⟩ := bind_eq_ok_iff.mp h
  cases h
  exact ⟨rfl, (forall₂_of_mapM_eq_ok hrules).imp fun rule resolved hresolved =>
    resolvedBy_of_resolved hkeyed hresolved⟩

/-- A copy misses nothing. -/
theorem CopiedTo.not_misses {snapshot : Snapshot}
    (h : descriptor.CopiedTo memory instanceId snapshot) (name : String) :
    ¬ descriptor.Misses memory name := by
  rintro ⟨⟨rule, hrule, hname⟩, hnone⟩
  obtain ⟨resolved, hresolved⟩ := exists_of_forall₂ h.rules rule hrule
  obtain ⟨id, hhas, -⟩ := exists_of_forall₂ hresolved.ids name hname
  exact hnone id hhas

end Descriptor

end Snapshots

/-! ### Instances -/

namespace Instances

/-- Copy a descriptor for an instance, among the device groups that are stored. -/
def takeSnapshot (descriptor : Descriptor) (instanceId : String) : Procedure Snapshot := do
  let deviceGroups : List DeviceGroup ← listByOwner .deviceGroups descriptor.organizationId
  check (descriptor.snapshot instanceId deviceGroups)

/-- Store an instance with its snapshot. -/
def launch (request : NewInstance) (descriptor : Descriptor) (instanceId : String)
    (snapshot : Snapshot) : Procedure Instance := do
  let created ← now
  let app : Instance :=
    { instanceId, created
      organizationId := request.organizationId
      descriptorId := descriptor.descriptorId
      name := request.name
      labels := request.labels
      status := .deploying
      groups := []
      revision := 0 }
  let parameters := request.parameters.map fun parameters =>
    { organizationId := app.organizationId, instanceId, parameters : InstanceParameters }
  ExceptT.mk (UndoLog.empty.writeAll (creation app snapshot parameters))
  return app

/-- **To make an instance is to find its descriptor, to copy it and to store both.** -/
theorem add_eq (request : NewInstance) :
    add request = (do
      validate request.validate
      requireOrganization request.organizationId
      let descriptor ← Descriptors.get request.organizationId request.descriptorId
      let instanceId ← freshId
      let snapshot ← takeSnapshot descriptor instanceId
      launch request descriptor instanceId snapshot) := by
  simp only [add, takeSnapshot, launch, bind_assoc]

/-- What making an instance looks for before it draws an id. -/
def descriptorTarget (request : NewInstance) (memory : Memory) :
    Except RegistryError Descriptor := do
  valid request.validate
  memory.requireOrganization request.organizationId
  memory.fetch .descriptor request.organizationId request.descriptorId

variable {world : World Memory}

theorem runWith_takeSnapshot (descriptor : Descriptor) (instanceId : String) :
    (takeSnapshot descriptor instanceId).runWith .memory world =
      (descriptor.snapshot instanceId
        (world.store.ownedRows .deviceGroups descriptor.organizationId), world) := rfl

/-- A snapshot is what the device groups of the organization make of the descriptor. -/
theorem takeSnapshot_eq {world : World Store} (hfaithful : world.store.Faithful)
    (descriptor : Descriptor) (instanceId : String) :
    let taken := (takeSnapshot descriptor instanceId).runWith .store world
    taken.1 = descriptor.snapshot instanceId
        (world.store.contents.ownedRows .deviceGroups descriptor.organizationId) ∧
      taken.2.contents = world.contents ∧ taken.2.store.Faithful :=
  runWith_of_contents hfaithful (runWith_takeSnapshot descriptor instanceId)

/-- Nothing is written before the snapshot is made. -/
theorem runWith_add (request : NewInstance) :
    (add request).runWith .memory world =
      outcome world (descriptorTarget request world.store) fun descriptor =>
        let drawn := { world with ids := world.ids.rest }
        outcome drawn
          (descriptor.snapshot world.ids.next
            (world.store.ownedRows .deviceGroups descriptor.organizationId))
          fun snapshot =>
            (launch request descriptor world.ids.next snapshot).runWith .memory drawn := by
  rw [add_eq]
  refine runWith_bind_outcome (runWith_validate _ _) fun _ _ => ?_
  refine runWith_bind_outcome (runWith_requireOrganization _ _) fun _ _ => ?_
  rw [← bind_pure (world.store.fetch _ _ _)]
  refine runWith_bind_outcome (ChildKind.runWith_get _ _ _ _) fun descriptor _ => ?_
  rw [runWith_bind_ok (runWith_freshId _)]
  show _ = outcome { world with ids := world.ids.rest } (descriptor.snapshot _ _) _
  rw [← bind_pure (descriptor.snapshot _ _)]
  exact runWith_bind_outcome (runWith_takeSnapshot _ _) fun _ _ => rfl

theorem descriptorTarget_eq_ok {request : NewInstance} {memory : Memory}
    {descriptor : Descriptor} :
    descriptorTarget request memory = .ok descriptor ↔ request.validate = .ok () ∧
      memory.row? .organizations request.organizationId ≠ none ∧
      memory.Fetched .descriptor request.organizationId request.descriptorId descriptor := by
  constructor
  · intro h
    obtain ⟨⟨⟩, hvalid, h⟩ := bind_eq_ok_iff.mp h
    obtain ⟨⟨⟩, horganization, h⟩ := bind_eq_ok_iff.mp h
    exact ⟨valid_eq_ok.mp hvalid, Memory.requireOrganization_eq_ok.mp horganization,
      Memory.fetch_eq_ok.mp h⟩
  · rintro ⟨hvalid, horganization, hfetched⟩
    rw [descriptorTarget, valid_eq_ok.mpr hvalid,
      Memory.requireOrganization_eq_ok.mpr horganization]
    exact Memory.fetch_eq_ok.mpr hfetched

/-- **An instance whose descriptor misses a device group is not made, and nothing is written.** -/
theorem runWith_add_of_misses (hkeyed : world.store.DeviceGroupsKeyed) {request : NewInstance}
    {descriptor : Descriptor}
    (hrow : world.store.row? .descriptors request.descriptorId = some descriptor)
    (hmisses : ∃ name, descriptor.Misses world.store name) :
    ∃ error ids, (add request).runWith .memory world = (.error error, { world with ids }) ∧
      (request.validate = .ok () →
        world.store.row? .organizations request.organizationId ≠ none →
        world.store.Fetched .descriptor request.organizationId request.descriptorId descriptor →
        ∃ name, descriptor.Misses world.store name ∧
          error = .notFound (.deviceGroup name descriptor.organizationId)) := by
  rw [runWith_add]
  cases htarget : descriptorTarget request world.store with
  | error error =>
    refine ⟨error, world.ids, rfl, fun hvalid horganization hfetched => ?_⟩
    rw [descriptorTarget_eq_ok.mpr ⟨hvalid, horganization, hfetched⟩] at htarget
    cases htarget
  | ok found =>
    obtain ⟨-, -, hfetched⟩ := descriptorTarget_eq_ok.mp htarget
    obtain rfl : found = descriptor := Option.some.inj (hfetched.present.symm.trans hrow)
    dsimp only [outcome]
    cases hsnapshot : found.snapshot world.ids.next
        (world.store.ownedRows .deviceGroups found.organizationId) with
    | error error =>
      exact ⟨error, world.ids.rest, rfl, fun _ _ _ => Descriptor.snapshot_error hsnapshot⟩
    | ok snapshot =>
      obtain ⟨name, hname⟩ := hmisses
      exact absurd hname ((Descriptor.copiedTo_of_snapshot hkeyed hsnapshot).not_misses name)

/-- **A snapshot is a copy of its descriptor in which each device group that a rule names stands for
the greatest id of that name in its organization**, or there is none because a name stands for
nothing.  Device groups of others make no difference, and an instance that gets no snapshot leaves
no trace. -/
theorem snapshot_resolves {world : World Store} (hfaithful : world.store.Faithful)
    (hkeyed : world.store.contents.DeviceGroupsKeyed) (descriptor : Descriptor)
    (instanceId : String) :
    let memory := world.store.contents
    let taken := (takeSnapshot descriptor instanceId).runWith .store world
    ((∃ what, taken.1 = .error (.notFound what)) ↔ ∃ name, descriptor.Misses memory name) ∧
    (∀ error, taken.1 = .error error → ∃ name, descriptor.Misses memory name ∧
      error = .notFound (.deviceGroup name descriptor.organizationId)) ∧
    (∀ snapshot, taken.1 = .ok snapshot → descriptor.CopiedTo memory instanceId snapshot) ∧
    (taken.2.store.Faithful ∧ taken.2.store.contents = memory) ∧
    (∀ other : World Store, other.store.Faithful →
      (∀ key (group : DeviceGroup), group.organizationId = descriptor.organizationId →
        (other.store.contents.row? .deviceGroups key = some group ↔
          memory.row? .deviceGroups key = some group)) →
      ((takeSnapshot descriptor instanceId).runWith .store other).1 = taken.1) ∧
    ∀ request : NewInstance, memory.row? .descriptors request.descriptorId = some descriptor →
      (∃ name, descriptor.Misses memory name) →
      let ended := (Operation.addInstance request).procedure.runWith .store world
      (ended.2.store.Faithful ∧ ended.2.store.contents = memory) ∧
      ∃ error, ended.1 = .error error ∧
        (request.validate = .ok () →
          memory.row? .organizations request.organizationId ≠ none →
          memory.Fetched .descriptor request.organizationId request.descriptorId descriptor →
          ∃ name, descriptor.Misses memory name ∧
            error = .notFound (.deviceGroup name descriptor.organizationId)) := by
  intro memory taken
  obtain ⟨hanswer, hcontents, hafter⟩ := takeSnapshot_eq hfaithful descriptor instanceId
  refine ⟨?fails, ?errors, ?copies, ⟨hafter, congrArg World.store hcontents⟩, ?others, ?additions⟩
  case errors =>
    intro error herror
    exact Descriptor.snapshot_error (hanswer.symm.trans herror)
  case copies =>
    intro snapshot hsnapshot
    exact Descriptor.copiedTo_of_snapshot hkeyed (hanswer.symm.trans hsnapshot)
  case fails =>
    constructor
    · rintro ⟨what, hwhat⟩
      obtain ⟨name, hname, -⟩ := Descriptor.snapshot_error (hanswer.symm.trans hwhat)
      exact ⟨name, hname⟩
    · rintro ⟨missed, hmissed⟩
      cases hresult : taken.1 with
      | error error =>
        obtain ⟨name, -, rfl⟩ := Descriptor.snapshot_error (hanswer.symm.trans hresult)
        exact ⟨_, rfl⟩
      | ok snapshot =>
        have hcopied := Descriptor.copiedTo_of_snapshot hkeyed (hanswer.symm.trans hresult)
        exact absurd hmissed (hcopied.not_misses missed)
  case others =>
    intro other hother hsame
    obtain ⟨hanswer', -⟩ := takeSnapshot_eq hother descriptor instanceId
    have hgroups : other.store.contents.ownedRows .deviceGroups descriptor.organizationId =
        memory.ownedRows .deviceGroups descriptor.organizationId :=
      Memory.ownedRows_congr fun key group howner => hsame key group (Option.some.inj howner)
    rw [hanswer', hgroups]
    exact hanswer.symm
  case additions =>
    intro request hrow hmisses ended
    have hrow : world.contents.store.row? .descriptors request.descriptorId = some descriptor :=
      hrow
    obtain ⟨error, ids, hrun, herror⟩ := runWith_add_of_misses hkeyed hrow hmisses
    obtain ⟨hended, hcontents, hafter⟩ := runWith_of_contents hfaithful hrun
    exact ⟨⟨hafter, congrArg World.store hcontents⟩, error, hended, herror⟩

/-- Two device groups share a name, another organization has one of that name with a greater id, and
only that organization has one of another name. -/
theorem snapshot_resolves_of_shared_name :
    let group (o id name : String) : DeviceGroup :=
      { (default : DeviceGroup) with organizationId := o, deviceGroupId := id, name }
    let memory := (((Memory.empty.put .deviceGroups (group "acme" "dg-1" "sensors")).put
      .deviceGroups (group "acme" "dg-2" "sensors")).put
      .deviceGroups (group "zeta" "dg-3" "sensors")).put
      .deviceGroups (group "zeta" "dg-4" "valves")
    let world : World Store := { store := .memory memory, ids := .sequential "id", clock := 0 }
    let descriptor (names : List String) : Descriptor :=
      { (default : Descriptor) with
        organizationId := "acme"
        rules := [{ (default : SecurityRule) with deviceGroupNames := names }] }
    let taken (names : List String) :=
      (takeSnapshot (descriptor names) "app-1").runWith .store world
    (∃ snapshot, (taken ["sensors", "sensors"]).1 = .ok snapshot ∧
      snapshot.rules.map (·.deviceGroupIds) = [["dg-2", "dg-2"]] ∧
      (descriptor ["sensors", "sensors"]).CopiedTo memory "app-1" snapshot) ∧
    (taken ["sensors", "valves"]).1 = .error (.notFound (.deviceGroup "valves" "acme")) ∧
    ∃ name, (descriptor ["sensors", "valves"]).Misses memory name := by
  intro group memory world descriptor taken
  have hkeyed : memory.DeviceGroupsKeyed := fun key group hrow =>
    ((((Memory.keyed_empty.put .deviceGroups _).put .deviceGroups _).put .deviceGroups _).put
      .deviceGroups _) .deviceGroups key group hrow
  have hfaithful : world.store.Faithful := trivial
  have hids : ((taken ["sensors", "sensors"]).1.toOption.map
      fun snapshot => snapshot.rules.map (·.deviceGroupIds)) = some [["dg-2", "dg-2"]] := by
    decide +kernel
  obtain ⟨snapshot, hsnapshot, hids⟩ := Option.map_eq_some_iff.mp hids
  have hsnapshot := toOption_eq_some_iff.mp hsnapshot
  obtain ⟨-, -, hcopies, -⟩ :=
    snapshot_resolves hfaithful hkeyed (descriptor ["sensors", "sensors"]) "app-1"
  have hmissed : (taken ["sensors", "valves"]).1 =
      .error (.notFound (.deviceGroup "valves" "acme")) := by
    decide +kernel
  obtain ⟨hfails, -⟩ :=
    snapshot_resolves hfaithful hkeyed (descriptor ["sensors", "valves"]) "app-1"
  exact ⟨⟨snapshot, hsnapshot, hids, hcopies snapshot hsnapshot⟩, hmissed,
    hfails.mp ⟨_, hmissed⟩⟩

end Instances

end TenantRegistry
