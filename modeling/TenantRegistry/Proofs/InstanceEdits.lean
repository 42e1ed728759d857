/-
TenantRegistry/Proofs/InstanceEdits.lean

What is added to an instance, and what is reported on it.

Each of these operations looks for what its request names, and then writes the
instance back with one change.  It succeeds if and only if all of it is found
where the request says; `groupTarget_eq_ok` and its like spell this out.  What
is written is the instance that was stored, with its parts as they were but for
the change, and nothing else in the registry is different afterwards.

An instance is found under an organization through the index, and belongs to it
(`Enrolled`).  That parts are found by ids that no other part has is a matter of
ids that do not repeat (`Instance.Distinct`).

Main results: `group_instances_added`, `report_recorded` and
`service_instance_added`.
-/
import TenantRegistry.Proofs.Documents
import TenantRegistry.Proofs.EditFirst
import TenantRegistry.Proofs.Outcomes

namespace TenantRegistry

open Procedure Instances

/-- Steps that make an instance, of a descriptor with two groups of one service each. -/
def oneInstance : List (Operation × Int64) :=
  let service : Service := { (default : Service) with name := "api", image := "api:1" }
  let group (name : String) : ServiceGroup :=
    { (default : ServiceGroup) with name, services := [service] }
  [(.addOrganization { (default : NewOrganization) with name := "acme" }, 1),
    (.addDescriptor { (default : NewDescriptor) with
      organizationId := "id-1", name := "shop", groups := [group "web", group "jobs"] }, 2),
    (.addInstance { (default : NewInstance) with
      organizationId := "id-1", descriptorId := "id-2", name := "shop" }, 3)]

/-! ### Group instances -/

namespace Instances

variable {memory : Memory}

theorem groupTarget_eq_ok {request : NewGroupInstances} {app : Instance} {group : ServiceGroup} :
    groupTarget request memory = .ok (app, group) ↔ request.WellFormed ∧
      memory.hasChild request.organizationId .descriptor request.descriptorId = true ∧
      memory.Fetched .appInstance request.organizationId request.instanceId app ∧
      app.descriptorId = request.descriptorId ∧
      ∃ snapshot : Snapshot, memory.row? .snapshots request.instanceId = some snapshot ∧
        snapshot.group? request.serviceGroupId = some group := by
  rw [← NewGroupInstances.validate_eq_ok_iff]
  constructor
  · intro h
    obtain ⟨⟨⟩, hvalid, h⟩ := bind_eq_ok_iff.mp h
    obtain ⟨⟨⟩, hlisted, h⟩ := bind_eq_ok_iff.mp h
    obtain ⟨found, happ, h⟩ := bind_eq_ok_iff.mp h
    obtain ⟨⟨⟩, hmade, h⟩ := bind_eq_ok_iff.mp h
    obtain ⟨snapshot, hsnapshot, h⟩ := bind_eq_ok_iff.mp h
    split at h
    · cases h
    · next hgroup =>
      cases h
      exact ⟨valid_eq_ok.mp hvalid, Memory.require_eq_ok.mp hlisted, Memory.fetch_eq_ok.mp happ,
        madeFrom_eq_ok.mp hmade, snapshot, Memory.find_eq_ok.mp hsnapshot, hgroup⟩
  · rintro ⟨hvalid, hlisted, happ, hmade, snapshot, hsnapshot, hgroup⟩
    refine bind_eq_ok_iff.mpr ⟨(), valid_eq_ok.mpr hvalid, ?_⟩
    refine bind_eq_ok_iff.mpr ⟨(), Memory.require_eq_ok.mpr hlisted, ?_⟩
    refine bind_eq_ok_iff.mpr ⟨app, Memory.fetch_eq_ok.mpr happ, ?_⟩
    refine bind_eq_ok_iff.mpr ⟨(), madeFrom_eq_ok.mpr hmade, ?_⟩
    refine bind_eq_ok_iff.mpr ⟨snapshot, Memory.find_eq_ok.mpr hsnapshot, ?_⟩
    rw [hgroup]

end Instances

/-- All that a request for group instances names is found where it is listed for the
organization. -/
theorem Enrolled.groupTarget_succeeds_iff {memory : Memory} (h : Enrolled memory)
    {request : NewGroupInstances} :
    (∃ found, groupTarget request memory = .ok found) ↔ request.WellFormed ∧
      memory.hasChild request.organizationId .descriptor request.descriptorId = true ∧
      memory.hasChild request.organizationId .appInstance request.instanceId = true ∧
      ∃ (app : Instance) (snapshot : Snapshot),
        memory.row? .instances request.instanceId = some app ∧
        app.descriptorId = request.descriptorId ∧
        memory.row? .snapshots request.instanceId = some snapshot ∧
        ∃ group ∈ snapshot.groups, group.serviceGroupId = request.serviceGroupId := by
  constructor
  · rintro ⟨⟨app, group⟩, htarget⟩
    obtain ⟨hvalid, hdescriptor, happ, hmade, snapshot, hsnapshot, hgroup⟩ :=
      groupTarget_eq_ok.mp htarget
    obtain ⟨hmem, hid⟩ := of_find?_id hgroup
    exact ⟨hvalid, hdescriptor, happ.listed, app, snapshot, happ.present, hmade, hsnapshot,
      group, hmem, hid⟩
  · rintro ⟨hvalid, hdescriptor, hlisted, app, snapshot, hrow, hmade, hsnapshot, group, hmem, hid⟩
    obtain ⟨found, hfound⟩ := exists_find?_id hmem hid
    have happ : memory.Fetched .appInstance request.organizationId request.instanceId app :=
      (h.fetched_iff_listed (Or.inr rfl) hvalid.organization.plain).mpr ⟨hlisted, hrow⟩
    exact ⟨(app, found), groupTarget_eq_ok.mpr
      ⟨hvalid, hdescriptor, happ, hmade, snapshot, hsnapshot, hfound⟩⟩

/-- The ids to come are drawn in order. -/
theorem IdSource.draws_take (ids : IdSource) (count : Nat) :
    ids.Draws (ids.take count) (ids.skip count) ∧ (ids.take count).length = count := by
  induction count generalizing ids with
  | zero => exact ⟨.nil ids, rfl⟩
  | succ count ih =>
    obtain ⟨hdraws, hlength⟩ := ih ids.rest
    rw [← IdSource.skip_rest]
    exact ⟨.cons hdraws, congrArg (· + 1) hlength⟩

/-- As many new group instances of a group as a request asks for. -/
structure NewGroupInstances.Makes (request : NewGroupInstances) (group : ServiceGroup)
    (created : List GroupInstance) : Prop where
  count : created.length = request.replicaCount.toNat
  each : ∀ new ∈ created, new = {
    groupInstanceId := new.groupInstanceId
    serviceGroupId := request.serviceGroupId
    name := group.name
    status := .scheduled
    replicas := { desired := request.replicaCount, available := 0, unavailable := 0 }
    services := [] }

/-- What is drawn for a request is made into as many group instances. -/
theorem NewGroupInstances.makes_newGroups {request : NewGroupInstances} {group : ServiceGroup}
    {given : List String} (hgroup : group.serviceGroupId = request.serviceGroupId)
    (hcount : given.length = request.replicaCount.toNat) :
    request.Makes group (given.map (newGroup group request.replicaCount)) := by
  refine ⟨by rw [List.length_map, hcount], fun new hmem => ?_⟩
  obtain ⟨id, -, rfl⟩ := List.mem_map.mp hmem
  rw [← hgroup]
  rfl

/-- **Group instances are added if and only if the request is well-formed, its descriptor and its
instance are listed, the one was made from the other, and the group is in the snapshot.**  They come
after those that are there, and nothing else changes; if nothing is added nothing changes. -/
theorem group_instances_added {start world : World Store} (hfresh : start.store.Fresh)
    (h : Attained start world) (request : NewGroupInstances) (time : Int64) :
    let memory := world.store.contents
    let ended := (Operation.addGroupInstances request).procedure.runWith .store (world.at time)
    ended.2.store.Faithful ∧
    ((∃ created, ended.1 = .ok created) ↔ request.WellFormed ∧
      memory.hasChild request.organizationId .descriptor request.descriptorId = true ∧
      memory.hasChild request.organizationId .appInstance request.instanceId = true ∧
      ∃ (app : Instance) (snapshot : Snapshot),
        memory.row? .instances request.instanceId = some app ∧
        app.descriptorId = request.descriptorId ∧
        memory.row? .snapshots request.instanceId = some snapshot ∧
        ∃ group ∈ snapshot.groups, group.serviceGroupId = request.serviceGroupId) ∧
    (∀ created, ended.1 = .ok created →
      ∃ (app : Instance) (snapshot : Snapshot) (group : ServiceGroup),
        memory.row? .instances request.instanceId = some app ∧
        memory.row? .snapshots request.instanceId = some snapshot ∧
        snapshot.group? request.serviceGroupId = some group ∧
        request.Makes group created ∧
        ended.2.store.contents = memory.put .instances
          { app with groups := app.groups ++ created, revision := app.revision + 1 } ∧
        (Function.Injective start.ids.name →
          (created.map (·.groupInstanceId)).Nodup ∧
          ∀ new ∈ created, world.Unseen new.groupInstanceId)) ∧
    ∀ error, ended.1 = .error error → ended.2.store.contents = memory := by
  intro memory ended
  obtain ⟨hfaithful, hkeyed⟩ := h.keyed hfresh
  obtain ⟨henrolled, -⟩ := h.enrolled hfresh
  have hat : (world.at time).store.Faithful := hfaithful
  have hrun : (addGroups request).runWith .memory (world.at time).contents =
      outcome (world.at time).contents (groupTarget request memory) _ :=
    runWith_addGroups hkeyed request
  obtain ⟨hafter, hfails, hfinishes⟩ := runWith_of_outcome hat hrun
  rw [← henrolled.groupTarget_succeeds_iff]
  cases htarget : groupTarget request memory with
  | error error =>
    obtain ⟨hended, hcontents⟩ := hfails error htarget
    have hended : ended.1 = .error error := hended
    rw [hended]
    exact ⟨hafter, iff_of_false nofun nofun, nofun, fun _ _ => hcontents⟩
  | ok found =>
    obtain ⟨app, group⟩ := found
    obtain ⟨-, -, happ, -, snapshot, hsnapshot, hgroup⟩ := groupTarget_eq_ok.mp htarget
    obtain ⟨-, hid⟩ := of_find?_id hgroup
    obtain ⟨hended, hcontents⟩ := hfinishes _ htarget
    obtain ⟨hdraws, hlength⟩ := world.ids.draws_take request.replicaCount.toNat
    have hended : ended.1 = .ok ((world.ids.take request.replicaCount.toNat).map
        (newGroup group request.replicaCount)) := hended
    rw [hended]
    refine ⟨hafter, iff_of_true ⟨_, rfl⟩ ⟨_, rfl⟩, ?_, nofun⟩
    rintro _ ⟨⟩
    refine ⟨app, snapshot, group, happ.present, hsnapshot, hgroup,
      NewGroupInstances.makes_newGroups hid hlength, hcontents, fun hinjective => ?_⟩
    have hextends := h.extends.trans hdraws.extends
    constructor
    · rw [List.map_map]
      show ((world.ids.take request.replicaCount.toNat).map id).Nodup
      rw [List.map_id]
      exact hdraws.nodup (hextends.name ▸ hinjective)
    · intro new hmem
      obtain ⟨id, hgiven, rfl⟩ := List.mem_map.mp hmem
      exact h.unseen_of_issued hfresh hinjective hdraws.extends (hdraws.issued id hgiven)

/-- Two group instances are added to an instance that has none. -/
theorem group_instances_added_of_two :
    let start : World Store := { store := .memory .empty, ids := .sequential "id", clock := 0 }
    let world := start.afterAll oneInstance
    let request : NewGroupInstances :=
      { organizationId := "id-1", descriptorId := "id-2", instanceId := "id-7"
        serviceGroupId := "id-3", replicaCount := 2 }
    let ended := (Operation.addGroupInstances request).procedure.runWith .store (world.at 4)
    start.store.Fresh ∧ Attained start world ∧ ∃ created, ended.1 = .ok created ∧
      created.map (·.groupInstanceId) = ["id-8", "id-9"] ∧
      (∀ new ∈ created, world.Unseen new.groupInstanceId) ∧
      ∃ app : Instance, world.store.contents.row? .instances "id-7" = some app ∧
        ended.2.store.contents = world.store.contents.put .instances
          { app with groups := app.groups ++ created, revision := app.revision + 1 } := by
  intro start world request ended
  have hfresh : start.store.Fresh := Or.inl rfl
  have hattained : Attained start world := Attained.start.afterAll _
  have hids : (ended.1.toOption.map fun created => created.map (·.groupInstanceId)) =
      some ["id-8", "id-9"] := by
    decide +kernel
  obtain ⟨created, hcreated, hids⟩ := Option.map_eq_some_iff.mp hids
  have hcreated := toOption_eq_some_iff.mp hcreated
  obtain ⟨-, -, hadds, -⟩ := group_instances_added hfresh hattained request 4
  obtain ⟨app, _, _, hrow, -, -, -, hcontents, hunseen⟩ := hadds created hcreated
  exact ⟨hfresh, hattained, created, hcreated, hids,
    (hunseen (IdSource.sequential_injective "id")).2, app, hrow, hcontents⟩

/-! ### Reports -/

/-- A group instance of an instance has a service instance. -/
def Instance.Holds (app : Instance) (groupInstanceId serviceInstanceId : String) : Prop :=
  ∃ group ∈ app.groups, group.groupInstanceId = groupInstanceId ∧
    ∃ service ∈ group.services, service.serviceInstanceId = serviceInstanceId

instance (app : Instance) (g s : String) : Decidable (app.Holds g s) :=
  inferInstanceAs (Decidable (∃ group ∈ app.groups, group.groupInstanceId = g ∧
    ∃ service ∈ group.services, service.serviceInstanceId = s))

/-- Where a service instance stands: in the only group instance with an id, as the only one with its
own. -/
structure Instance.Located (app : Instance) (groupInstanceId serviceInstanceId : String)
    (before : List GroupInstance) (group : GroupInstance) (after : List GroupInstance)
    (first : List ServiceInstance) (service : ServiceInstance) (last : List ServiceInstance) :
    Prop where
  outer : Singled (·.groupInstanceId) app.groups groupInstanceId before group after
  inner : Singled (·.serviceInstanceId) group.services serviceInstanceId first service last
  elsewhere : ∀ other ∈ before ++ after, ∀ service' ∈ other.services,
    service'.serviceInstanceId ≠ serviceInstanceId

/-- What is held stands in one place. -/
theorem Instance.Holds.located {app : Instance} {g s : String} (h : app.Holds g s)
    (hdistinct : app.Distinct) :
    ∃ before group after first service last,
      app.Located g s before group after first service last := by
  obtain ⟨group, hgroup, rfl, service, hservice, rfl⟩ := h
  obtain ⟨before, after, hsplit⟩ := Singled.exists_of_mem hdistinct.groups hgroup
  obtain ⟨first, last, hwithin⟩ := Singled.exists_of_mem (hdistinct.services group hgroup) hservice
  exact ⟨before, group, after, first, service, last, hsplit, hwithin,
    hdistinct.not_elsewhere hsplit.split hservice⟩

namespace Instances

variable {memory : Memory} {request : StatusReport} {app : Instance}

/-- A report on what is not held is an inconsistency. -/
theorem reportTarget_of_not_holds (hvalid : request.validate = .ok ())
    (happ : memory.Fetched .appInstance request.organizationId request.instanceId app)
    (h : ¬ app.Holds request.groupInstanceId request.serviceInstanceId) :
    ∃ what, reportTarget request memory = .error (.internal what) := by
  rw [reportTarget, valid_eq_ok.mpr hvalid, Memory.fetch_eq_ok.mpr happ]
  dsimp only [bind, Except.bind]
  cases hgroup : app.group? request.groupInstanceId with
  | none => exact ⟨_, rfl⟩
  | some group =>
    cases hservice : group.service? request.serviceInstanceId with
    | none =>
      dsimp only
      rw [hservice]
      exact ⟨_, rfl⟩
    | some service =>
      obtain ⟨hmem, hid⟩ := of_find?_id hgroup
      obtain ⟨hmem', hid'⟩ := of_find?_id hservice
      exact absurd ⟨group, hmem, hid, service, hmem', hid'⟩ h

/-- A report on what is held finds it, as the only one. -/
theorem reportTarget_of_located (hvalid : request.validate = .ok ())
    (happ : memory.Fetched .appInstance request.organizationId request.instanceId app)
    {before after group first last service}
    (h : app.Located request.groupInstanceId request.serviceInstanceId before group after first
      service last) : reportTarget request memory = .ok app := by
  have hgroup : app.group? request.groupInstanceId = some group := h.outer.find?_id
  have hservice : group.service? request.serviceInstanceId = some service := h.inner.find?_id
  rw [reportTarget, valid_eq_ok.mpr hvalid, Memory.fetch_eq_ok.mpr happ]
  dsimp only [bind, Except.bind]
  rw [hgroup]
  dsimp only
  rw [hservice]

end Instances

/-- A report changes the service instance that it is about, and the status of its group instance. -/
theorem Instance.Located.editGroup {app : Instance} {request : StatusReport}
    {before after : List GroupInstance} {group : GroupInstance}
    {first last : List ServiceInstance} {service : ServiceInstance}
    (h : app.Located request.groupInstanceId request.serviceInstanceId before group after first
      service last) :
    app.editGroup request.groupInstanceId (fun group =>
      (group.editService request.serviceInstanceId request.apply).withDerivedStatus) =
        let services := first ++ request.apply service :: last
        { app with
          groups := before ++ { group with
            services, status := ServiceStatus.aggregate (services.map (·.status)) } :: after } := by
  have hservices : (group.editService request.serviceInstanceId request.apply).services =
      first ++ request.apply service :: last := h.inner.editFirst_id _
  rw [Instance.editGroup, h.outer.editFirst_id, GroupInstance.withDerivedStatus, hservices]
  rfl

/-- **A report is recorded if a group instance with the given id has a service instance with the
given id, and is an inconsistency otherwise.**  If it is recorded there is one such service
instance; it and the status of its group instance are what the report makes them, and everything
else stays. -/
theorem report_recorded {start world : World Store} (hfresh : start.store.Fresh)
    (hinjective : Function.Injective start.ids.name) (h : Attained start world)
    {request : StatusReport} (hvalid : request.validate = .ok ()) {app : Instance}
    (hrow : world.store.contents.row? .instances request.instanceId = some app)
    (howner : app.organizationId = request.organizationId) (time : Int64) :
    let memory := world.store.contents
    let ended := (Operation.reportStatus request).procedure.runWith .store (world.at time)
    ended.2.store.Faithful ∧
    ((∃ what, ended.1 = .error (.internal what)) ∧ ended.2.store.contents = memory ↔
      ¬ app.Holds request.groupInstanceId request.serviceInstanceId) ∧
    (app.Holds request.groupInstanceId request.serviceInstanceId →
      ∃ before group after first service last,
        app.Located request.groupInstanceId request.serviceInstanceId before group after first
          service last ∧
        let reported : ServiceInstance :=
          { service with
            status := request.status
            endpoints := request.endpoints
            deployedOn := request.deployedOn }
        let services := first ++ reported :: last
        let status := ServiceStatus.aggregate (services.map (·.status))
        let stored : Instance :=
          { app with
            groups := before ++ { group with services, status } :: after
            revision := app.revision + 1 }
        ended.1 = .ok stored ∧ ended.2.store.contents = memory.put .instances stored) := by
  intro memory ended
  obtain ⟨hfaithful, hkeyed⟩ := h.keyed hfresh
  obtain ⟨henrolled, -⟩ := h.enrolled hfresh
  have hwell := StatusReport.validate_eq_ok_iff.mp hvalid
  have happ : memory.Fetched .appInstance request.organizationId request.instanceId app :=
    (henrolled.fetched_iff_owned (Or.inr rfl) hwell.organization.plain hwell.app.plain).mpr
      ⟨hrow, congrArg some howner⟩
  have hat : (world.at time).store.Faithful := hfaithful
  have hrun : (report request).runWith .memory (world.at time).contents =
      outcome (world.at time).contents (reportTarget request memory) _ :=
    runWith_report hkeyed request
  obtain ⟨hafter, hfails, hfinishes⟩ := runWith_of_outcome hat hrun
  refine ⟨hafter, ?_⟩
  by_cases hholds : app.Holds request.groupInstanceId request.serviceInstanceId
  · obtain ⟨before, group, after, first, service, last, hlocated⟩ :=
      hholds.located (h.distinct hfresh hinjective hrow)
    obtain ⟨hended, hcontents⟩ := hfinishes app (reportTarget_of_located hvalid happ hlocated)
    rw [hlocated.editGroup] at hended hcontents
    have hended : ended.1 = .ok _ := hended
    refine ⟨iff_of_false ?_ (not_not.mpr hholds), fun _ => ?_⟩
    · rintro ⟨⟨what, hwhat⟩, -⟩
      rw [hended] at hwhat
      cases hwhat
    · exact ⟨before, group, after, first, service, last, hlocated, hended, hcontents⟩
  · obtain ⟨what, hwhat⟩ := reportTarget_of_not_holds hvalid happ hholds
    obtain ⟨hended, hcontents⟩ := hfails _ hwhat
    exact ⟨iff_of_true ⟨⟨what, hended⟩, hcontents⟩ hholds, fun h => absurd h hholds⟩

/-- One of two service instances is reported to run, and its group instance is on its way. -/
theorem report_recorded_of_one_running :
    let start : World Store := { store := .memory .empty, ids := .sequential "id", clock := 0 }
    let joining : Operation :=
      .addServiceInstance
        { organizationId := "id-1", descriptorId := "id-2", instanceId := "id-7"
          serviceGroupId := "id-3", groupInstanceId := "id-8", serviceId := "id-4" }
    let world := start.afterAll (oneInstance ++
      [(.addGroupInstances
          { organizationId := "id-1", descriptorId := "id-2", instanceId := "id-7"
            serviceGroupId := "id-3", replicaCount := 1 }, 4),
        (joining, 5), (joining, 6)])
    let request (serviceInstanceId : String) : StatusReport :=
      { organizationId := "id-1", instanceId := "id-7", groupInstanceId := "id-8"
        serviceInstanceId, status := .running, endpoints := [], deployedOn := some "c-1" }
    let ended (serviceInstanceId : String) :=
      (Operation.reportStatus (request serviceInstanceId)).procedure.runWith .store (world.at 7)
    start.store.Fresh ∧ Function.Injective start.ids.name ∧ Attained start world ∧
    (∃ app : Instance, world.store.contents.row? .instances "id-7" = some app ∧
      app.organizationId = "id-1" ∧ app.Holds "id-8" "id-10" ∧ ¬ app.Holds "id-8" "id-11") ∧
    (∃ stored, (ended "id-10").1 = .ok stored ∧
      stored.groups.map (fun group => (group.status, group.services.map (·.status))) =
        [(.deploying, [.scheduled, .running])] ∧
      (ended "id-10").2.store.contents = world.store.contents.put .instances stored) ∧
    (∃ what, (ended "id-11").1 = .error (.internal what)) ∧
    (ended "id-11").2.store.contents = world.store.contents := by
  intro start joining world request ended
  have hfresh : start.store.Fresh := Or.inl rfl
  have hinjective : Function.Injective start.ids.name := IdSource.sequential_injective "id"
  have hattained : Attained start world := Attained.start.afterAll _
  have hfound : ∃ app ∈ (world.store.contents.row? .instances "id-7").toList,
      app.organizationId = "id-1" ∧ app.Holds "id-8" "id-10" ∧ ¬ app.Holds "id-8" "id-11" := by
    decide +kernel
  obtain ⟨app, hmem, howner, hholds, hmissing⟩ := hfound
  have hrow := Option.mem_toList.mp hmem
  have hstatuses : ((ended "id-10").1.toOption.map fun stored =>
      stored.groups.map fun group => (group.status, group.services.map (·.status))) =
        some [(.deploying, [.scheduled, .running])] := by
    decide +kernel
  obtain ⟨stored, hstored, hstatuses⟩ := Option.map_eq_some_iff.mp hstatuses
  have hstored := toOption_eq_some_iff.mp hstored
  have hvalid : (request "id-10").validate = .ok () ∧ (request "id-11").validate = .ok () := by
    decide +kernel
  obtain ⟨-, -, hrecords⟩ := report_recorded hfresh hinjective hattained hvalid.1 hrow howner 7
  obtain ⟨-, hfails, -⟩ := report_recorded hfresh hinjective hattained hvalid.2 hrow howner 7
  obtain ⟨_, _, _, _, _, _, -, hended, hcontents⟩ := hrecords hholds
  rw [← Except.ok.inj (hstored.symm.trans hended)] at hcontents
  exact ⟨hfresh, hinjective, hattained, ⟨app, hrow, howner, hholds, hmissing⟩,
    ⟨stored, hstored, hstatuses, hcontents⟩, hfails.mpr hmissing⟩

/-! ### Service instances -/

/-- The live descriptor of an instance offers the service that a request names. -/
structure NewServiceInstance.Offered (request : NewServiceInstance) (memory : Memory)
    (descriptor : Descriptor) (group : ServiceGroup) (service : Service) (app : Instance) :
    Prop where
  wellFormed : request.WellFormed
  live : memory.row? .descriptors request.descriptorId = some descriptor
  live_owner : descriptor.organizationId = request.organizationId
  stored : memory.row? .instances request.instanceId = some app
  stored_owner : app.organizationId = request.organizationId
  made_from : app.descriptorId = request.descriptorId
  group_mem : group ∈ descriptor.groups
  group_id : group.serviceGroupId = request.serviceGroupId
  service_mem : service ∈ group.services
  service_id : service.serviceId = request.serviceId

namespace Instances

variable {memory : Memory}

theorem serviceTarget_eq_ok {request : NewServiceInstance} {app : Instance} {service : Service} :
    serviceTarget request memory = .ok (app, service) ↔ request.WellFormed ∧
      ∃ descriptor : Descriptor,
        memory.Fetched .descriptor request.organizationId request.descriptorId descriptor ∧
        memory.Fetched .appInstance request.organizationId request.instanceId app ∧
        app.descriptorId = request.descriptorId ∧
        ∃ group, descriptor.group? request.serviceGroupId = some group ∧
          group.service? request.serviceId = some service := by
  rw [← NewServiceInstance.validate_eq_ok_iff]
  constructor
  · intro h
    obtain ⟨⟨⟩, hvalid, h⟩ := bind_eq_ok_iff.mp h
    obtain ⟨descriptor, hdescriptor, h⟩ := bind_eq_ok_iff.mp h
    obtain ⟨found, happ, h⟩ := bind_eq_ok_iff.mp h
    obtain ⟨⟨⟩, hmade, h⟩ := bind_eq_ok_iff.mp h
    split at h
    · cases h
    · next hservice =>
      cases h
      obtain ⟨group, hgroup, hservice⟩ := Option.bind_eq_some_iff.mp hservice
      exact ⟨valid_eq_ok.mp hvalid, descriptor, Memory.fetch_eq_ok.mp hdescriptor,
        Memory.fetch_eq_ok.mp happ, madeFrom_eq_ok.mp hmade, group, hgroup, hservice⟩
  · rintro ⟨hvalid, descriptor, hdescriptor, happ, hmade, group, hgroup, hservice⟩
    refine bind_eq_ok_iff.mpr ⟨(), valid_eq_ok.mpr hvalid, ?_⟩
    refine bind_eq_ok_iff.mpr ⟨descriptor, Memory.fetch_eq_ok.mpr hdescriptor, ?_⟩
    refine bind_eq_ok_iff.mpr ⟨app, Memory.fetch_eq_ok.mpr happ, ?_⟩
    refine bind_eq_ok_iff.mpr ⟨(), madeFrom_eq_ok.mpr hmade, ?_⟩
    rw [hgroup, Option.bind_some, hservice]

end Instances

/-- What a request for a service instance names is found where it is owned by the organization. -/
theorem Enrolled.serviceTarget_iff {memory : Memory} (h : Enrolled memory)
    (hdistinct : ∀ key (descriptor : Descriptor),
      memory.row? .descriptors key = some descriptor → descriptor.Distinct)
    {request : NewServiceInstance} {app : Instance} {service : Service} :
    serviceTarget request memory = .ok (app, service) ↔
      ∃ descriptor group, request.Offered memory descriptor group service app := by
  rw [serviceTarget_eq_ok]
  constructor
  · rintro ⟨hwell, descriptor, hdescriptor, happ, hmade, group, hgroup, hservice⟩
    obtain ⟨hmem, hid⟩ := of_find?_id hgroup
    obtain ⟨hmem', hid'⟩ := of_find?_id hservice
    exact ⟨descriptor, group, hwell, hdescriptor.present, Option.some.inj hdescriptor.owner,
      happ.present, Option.some.inj happ.owner, hmade, hmem, hid, hmem', hid'⟩
  · rintro ⟨descriptor, group, ho⟩
    have hplain := ho.wellFormed.organization.plain
    have hids := hdistinct _ _ ho.live
    refine ⟨ho.wellFormed, descriptor, ?_, ?_, ho.made_from, group, ?_, ?_⟩
    · exact (h.fetched_iff_owned (Or.inl rfl) hplain ho.wellFormed.descriptor.plain).mpr
        ⟨ho.live, congrArg some ho.live_owner⟩
    · exact (h.fetched_iff_owned (Or.inr rfl) hplain ho.wellFormed.app.plain).mpr
        ⟨ho.stored, congrArg some ho.stored_owner⟩
    · exact find?_id_of_nodup hids.groups ho.group_mem ho.group_id
    · exact find?_id_of_nodup (hids.services group ho.group_mem) ho.service_mem ho.service_id

section Joining

variable {world : World Memory} {request : NewServiceInstance} {app : Instance} {service : Service}

/-- A service instance joins the only group instance with the id that is asked for, if this is one
of the group. -/
theorem Instances.addService_joined (hkeyed : world.store.Keyed)
    (htarget : serviceTarget request world.store = .ok (app, service))
    {before after : List GroupInstance} {deployed : GroupInstance}
    (h : Singled (·.groupInstanceId) app.groups request.groupInstanceId before deployed after)
    (hgroup : deployed.serviceGroupId = request.serviceGroupId) :
    let created := newService service world.ids.next
    (addService request).runWith .memory world =
      (.ok created,
        { store := world.store.put .instances
            { app with
              groups := before ++
                { deployed with services := deployed.services ++ [created] } :: after
              revision := app.revision + 1 }
          ids := world.ids.rest
          clock := world.clock }) := by
  intro created
  have hfits : decide (deployed.serviceGroupId = request.serviceGroupId ∧
      deployed.groupInstanceId = request.groupInstanceId) = true :=
    decide_eq_true ⟨hgroup, h.named⟩
  have hfound : app.groupOf? request.serviceGroupId request.groupInstanceId = some deployed :=
    h.find?_eq (fun _ htest => (of_decide_eq_true htest).2) hfits
  have hedited : app.editGroupOf request.serviceGroupId request.groupInstanceId
      (·.addService created) = { app with
        groups := before ++
          { deployed with services := deployed.services ++ [created] } :: after } := by
    rw [Instance.editGroupOf, h.editFirst_eq (fun _ htest => (of_decide_eq_true htest).2) hfits]
    rfl
  rw [runWith_addService hkeyed, htarget]
  dsimp only [outcome]
  rw [hfound]
  dsimp only
  rw [hedited]

/-- A service instance joins nothing if no group instance has both ids. -/
theorem Instances.addService_refused (hkeyed : world.store.Keyed)
    (htarget : serviceTarget request world.store = .ok (app, service))
    (hnone : ∀ deployed ∈ app.groups, deployed.groupInstanceId = request.groupInstanceId →
      deployed.serviceGroupId ≠ request.serviceGroupId) :
    (addService request).runWith .memory world =
      (.error (.notFound (.groupInstanceOf request.groupInstanceId request.serviceGroupId
        request.instanceId)), { world with ids := world.ids.rest }) := by
  have hfound : app.groupOf? request.serviceGroupId request.groupInstanceId = none := by
    refine List.find?_eq_none.mpr fun deployed hmem htest => ?_
    obtain ⟨hgroup, hid⟩ := of_decide_eq_true htest
    exact hnone deployed hmem hid hgroup
  rw [runWith_addService hkeyed, htarget]
  dsimp only [outcome]
  rw [hfound]

end Joining

/-- **A service instance is added if and only if the live descriptor offers its service and the
instance has a group instance with both ids.**  It is the last one of this group instance then,
under a new id, and everything else stays; if nothing is added nothing changes.  A group instance
of another group is not found. -/
theorem service_instance_added {start world : World Store} (hfresh : start.store.Fresh)
    (hinjective : Function.Injective start.ids.name) (h : Attained start world)
    (request : NewServiceInstance) (time : Int64) :
    let memory := world.store.contents
    let ended := (Operation.addServiceInstance request).procedure.runWith .store (world.at time)
    ended.2.store.Faithful ∧
    ((∃ created, ended.1 = .ok created) ↔
      ∃ descriptor group service app, request.Offered memory descriptor group service app ∧
        ∃ deployed ∈ app.groups, deployed.serviceGroupId = request.serviceGroupId ∧
          deployed.groupInstanceId = request.groupInstanceId) ∧
    (∀ descriptor group service app, request.Offered memory descriptor group service app →
      (∀ deployed ∈ app.groups, deployed.groupInstanceId = request.groupInstanceId →
        deployed.serviceGroupId ≠ request.serviceGroupId) →
      ended.1 = .error (.notFound (.groupInstanceOf request.groupInstanceId
        request.serviceGroupId request.instanceId))) ∧
    (∀ created, ended.1 = .ok created →
      ∃ descriptor group service app before deployed after,
        request.Offered memory descriptor group service app ∧
        Singled (·.groupInstanceId) app.groups request.groupInstanceId before deployed after ∧
        deployed.serviceGroupId = request.serviceGroupId ∧
        world.Unseen created.serviceInstanceId ∧
        created =
          { serviceInstanceId := created.serviceInstanceId
            serviceId := service.serviceId
            name := service.name
            image := service.image
            status := .scheduled
            endpoints := []
            deployedOn := none } ∧
        ended.2.store.contents = memory.put .instances
          { app with
            groups := before ++
              { deployed with services := deployed.services ++ [created] } :: after
            revision := app.revision + 1 }) ∧
    ∀ error, ended.1 = .error error → ended.2.store.contents = memory := by
  intro memory ended
  obtain ⟨hfaithful, hkeyed⟩ := h.keyed hfresh
  obtain ⟨henrolled, -⟩ := h.enrolled hfresh
  have hat : (world.at time).store.Faithful := hfaithful
  have htarget : ∀ app service, serviceTarget request memory = .ok (app, service) ↔
      ∃ descriptor group, request.Offered memory descriptor group service app :=
    fun _ _ => henrolled.serviceTarget_iff fun key descriptor hrow =>
      Descriptor.distinct_of_nodup ((h.assigned hfresh hinjective).nodup .descriptors key _ hrow)
  cases hfound : serviceTarget request memory with
  | error error =>
    have hrun : (addService request).runWith .memory (world.at time).contents =
        outcome (world.at time).contents (serviceTarget request memory) _ :=
      runWith_addService hkeyed request
    rw [hfound] at hrun
    obtain ⟨hended, hcontents, hafter⟩ := runWith_of_contents hat hrun
    have hended : ended.1 = .error error := hended
    have hnone : ∀ {descriptor group service app},
        ¬ request.Offered memory descriptor group service app := by
      intro descriptor group service app hoffered
      rw [(htarget app service).mpr ⟨descriptor, group, hoffered⟩] at hfound
      cases hfound
    rw [hended]
    refine ⟨hafter, iff_of_false nofun ?_, ?_, nofun, fun _ _ => congrArg World.store hcontents⟩
    · rintro ⟨_, _, _, _, hoffered, -⟩
      exact hnone hoffered
    · exact fun _ _ _ _ hoffered => absurd hoffered hnone
  | ok found =>
    obtain ⟨app, service⟩ := found
    obtain ⟨descriptor, group, hoffered⟩ := (htarget app service).mp hfound
    -- the instance is the one under its key
    have hsame : ∀ {descriptor' group' service' app'},
        request.Offered memory descriptor' group' service' app' → app' = app :=
      fun hother => Option.some.inj (hother.stored.symm.trans hoffered.stored)
    by_cases hplace : ∃ deployed ∈ app.groups,
        deployed.serviceGroupId = request.serviceGroupId ∧
          deployed.groupInstanceId = request.groupInstanceId
    · obtain ⟨deployed, hmem, hgroup, hid⟩ := hplace
      obtain ⟨before, after, hsingled⟩ :=
        Singled.exists_of_mem (h.distinct hfresh hinjective hoffered.stored).groups hmem
      rw [hid] at hsingled
      obtain ⟨hended, hcontents, hafter⟩ :=
        runWith_of_contents hat (addService_joined hkeyed hfound hsingled hgroup)
      have hended : ended.1 = .ok (newService service world.ids.next) := hended
      have hdraws : world.ids.Draws [world.ids.next] world.ids.rest := .cons (.nil _)
      rw [hended]
      refine ⟨hafter, iff_of_true ⟨_, rfl⟩ ?_, ?_, ?_, nofun⟩
      · exact ⟨descriptor, group, service, app, hoffered, deployed, hmem, hgroup, hid⟩
      · intro _ _ _ _ hother hnone
        rw [hsame hother] at hnone
        exact absurd hgroup (hnone deployed hmem hid)
      · rintro _ ⟨⟩
        refine ⟨descriptor, group, service, app, before, deployed, after, hoffered, hsingled,
          hgroup, ?_, rfl, congrArg World.store hcontents⟩
        exact h.unseen_of_issued hfresh hinjective hdraws.extends
          (hdraws.issued _ List.mem_cons_self)
    · have hnone : ∀ deployed ∈ app.groups, deployed.groupInstanceId = request.groupInstanceId →
          deployed.serviceGroupId ≠ request.serviceGroupId :=
        fun deployed hmem hid hgroup => hplace ⟨deployed, hmem, hgroup, hid⟩
      obtain ⟨hended, hcontents, hafter⟩ :=
        runWith_of_contents hat (addService_refused hkeyed hfound hnone)
      have hended : ended.1 = .error _ := hended
      rw [hended]
      refine ⟨hafter, iff_of_false nofun ?_, fun _ _ _ _ _ _ => rfl, nofun,
        fun _ _ => congrArg World.store hcontents⟩
      rintro ⟨_, _, _, _, hother, hplace'⟩
      rw [hsame hother] at hplace'
      exact hplace hplace'

/-- A service instance joins a group instance, and none does under the id of another group. -/
theorem service_instance_added_of_one_group :
    let start : World Store := { store := .memory .empty, ids := .sequential "id", clock := 0 }
    let world := start.afterAll (oneInstance ++
      [(.addGroupInstances
          { organizationId := "id-1", descriptorId := "id-2", instanceId := "id-7"
            serviceGroupId := "id-3", replicaCount := 1 }, 4)])
    let request (serviceGroupId serviceId : String) : NewServiceInstance :=
      { organizationId := "id-1", descriptorId := "id-2", instanceId := "id-7"
        serviceGroupId, groupInstanceId := "id-8", serviceId }
    let ended (serviceGroupId serviceId : String) :=
      (Operation.addServiceInstance (request serviceGroupId serviceId)).procedure.runWith .store
        (world.at 5)
    start.store.Fresh ∧ Function.Injective start.ids.name ∧ Attained start world ∧
    (∃ created, (ended "id-3" "id-4").1 = .ok created ∧
      created.serviceInstanceId = "id-9" ∧ world.Unseen "id-9" ∧
      ∃ descriptor group service app,
        (request "id-3" "id-4").Offered world.store.contents descriptor group service app) ∧
    (ended "id-5" "id-6").1 = .error (.notFound (.groupInstanceOf "id-8" "id-5" "id-7")) ∧
    (ended "id-5" "id-6").2.store.contents = world.store.contents := by
  intro start world request ended
  have hfresh : start.store.Fresh := Or.inl rfl
  have hinjective : Function.Injective start.ids.name := IdSource.sequential_injective "id"
  have hattained : Attained start world := Attained.start.afterAll _
  have hid : ((ended "id-3" "id-4").1.toOption.map (·.serviceInstanceId)) = some "id-9" := by
    decide +kernel
  obtain ⟨created, hcreated, hid⟩ := Option.map_eq_some_iff.mp hid
  have hcreated := toOption_eq_some_iff.mp hcreated
  have hrefused : (ended "id-5" "id-6").1 =
      .error (.notFound (.groupInstanceOf "id-8" "id-5" "id-7")) := by
    decide +kernel
  obtain ⟨-, -, -, hadds, -⟩ :=
    service_instance_added hfresh hinjective hattained (request "id-3" "id-4") 5
  obtain ⟨-, -, -, -, hfails⟩ :=
    service_instance_added hfresh hinjective hattained (request "id-5" "id-6") 5
  obtain ⟨descriptor, group, service, app, _, _, _, hoffered, -, -, hunseen, -⟩ :=
    hadds created hcreated
  exact ⟨hfresh, hinjective, hattained,
    ⟨created, hcreated, hid, hid ▸ hunseen, descriptor, group, service, app, hoffered⟩,
    hrefused, hfails _ hrefused⟩

end TenantRegistry
