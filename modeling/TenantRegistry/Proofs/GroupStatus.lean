/-
TenantRegistry/Proofs/GroupStatus.lean

What the status of a group instance says about its services.

The status of a group is derived from those of its services, where it says
that the group runs only if every service does (`aggregate_eq_running_iff`).
It is then kept in the document, and derived again when a report comes in, but
not when a service joins the group.  So a group may be said to run although a
service of it has only been scheduled.

That is the one way in which the status of a group becomes more than its
services can answer for: up to any point of a run every group that is said to
run does, if and only if no service joined a group that was said to run
(`runs_iff_no_late_join`).  And what joined late is all that can be wrong: before
it stand services that were all reported running.

Nothing is assumed about ids.
-/
import TenantRegistry.Proofs.Deployments
import TenantRegistry.Proofs.EditFirst
import TenantRegistry.Proofs.Outcomes

namespace TenantRegistry

/-! ### Statuses of many services -/

namespace ServiceStatus

/-- On its way to running. -/
def isInFlight : ServiceStatus → Bool
  | scheduled | waiting | deploying => true
  | running | error | terminating => false

/-- **A tally of members says which statuses are among them.** -/
theorem foldl_add (statuses : List ServiceStatus) (tally : Tally) :
    statuses.foldl Tally.add tally =
      { seen := tally.seen || !statuses.isEmpty
        allRunning := tally.allRunning && statuses.all (· = .running)
        terminating := tally.terminating || statuses.any (· = .terminating)
        inFlight := tally.inFlight || statuses.any isInFlight
        failed := tally.failed || statuses.any (· = .error) } := by
  induction statuses generalizing tally with
  | nil => simp
  | cons status rest ih =>
    rw [List.foldl_cons, ih]
    cases status <;> simp [Tally.add, isInFlight]

theorem Tally.status_eq_running_iff (tally : Tally) :
    tally.status = running ↔
      tally.seen = true ∧ tally.allRunning = true ∧ tally.failed = false := by
  obtain ⟨seen, allRunning, terminating, inFlight, failed⟩ := tally
  revert seen allRunning terminating inFlight failed
  decide

/-- **A group runs if and only if it has members and all of them run.** -/
theorem aggregate_eq_running_iff {statuses : List ServiceStatus} :
    aggregate statuses = running ↔ statuses ≠ [] ∧ ∀ status ∈ statuses, status = running := by
  rw [aggregate, Tally.status_eq_running_iff, foldl_add]
  simp only [Tally.none, Bool.false_or, Bool.true_and, Bool.not_eq_true', List.isEmpty_eq_false_iff,
    List.all_eq_true, decide_eq_true_eq, List.any_eq_false]
  refine and_congr_right fun _ => and_iff_left_of_imp fun hall status hmem herror => ?_
  rw [hall status hmem] at herror
  cases herror

end ServiceStatus

/-! ### Group instances one by one -/

/-- A group that is said to run has services, and all of them run. -/
def GroupInstance.Runs (group : GroupInstance) : Prop :=
  group.status = .running →
    group.services ≠ [] ∧ ∀ service ∈ group.services, service.status = .running

/-- A service instance on which nothing was reported. -/
structure ServiceInstance.Unreported (service : ServiceInstance) : Prop where
  status : service.status = .scheduled
  endpoints : service.endpoints = []
  deployedOn : service.deployedOn = none

/-- A group that is said to run has services that were all reported running, and after them only
such as joined it since. -/
def GroupInstance.RunsButLate (group : GroupInstance) : Prop :=
  group.status = .running →
    ∃ ran late, group.services = ran ++ late ∧ ran ≠ [] ∧
      (∀ service ∈ ran, service.status = .running) ∧ ∀ service ∈ late, service.Unreported

namespace GroupInstance

variable {group : GroupInstance}

/-- A derived status is right. -/
theorem runs_withDerivedStatus (group : GroupInstance) : group.withDerivedStatus.Runs := by
  intro hrunning
  have haggregate : ServiceStatus.aggregate (group.services.map (·.status)) = .running := hrunning
  obtain ⟨hsome, hall⟩ := ServiceStatus.aggregate_eq_running_iff.mp haggregate
  refine ⟨fun hnone => hsome ?_, fun service hmem => ?_⟩
  · have hnone : group.services = [] := hnone
    rw [hnone, List.map_nil]
  · exact hall _ (List.mem_map_of_mem hmem)

/-- Where all services run none joined late. -/
theorem Runs.runsButLate (h : group.Runs) : group.RunsButLate := by
  intro hrunning
  obtain ⟨hsome, hall⟩ := h hrunning
  exact ⟨group.services, [], (List.append_nil _).symm, hsome, hall, nofun⟩

/-- One more that joined late. -/
theorem RunsButLate.addService (h : group.RunsButLate) {service : ServiceInstance}
    (hservice : service.Unreported) : (group.addService service).RunsButLate := by
  intro hrunning
  obtain ⟨ran, late, hservices, hsome, hran, hlate⟩ := h hrunning
  refine ⟨ran, late ++ [service], ?_, hsome, hran, fun other hmem => ?_⟩
  · show group.services ++ [service] = ran ++ (late ++ [service])
    rw [hservices, List.append_assoc]
  · rcases List.mem_append.mp hmem with hmem | hmem
    · exact hlate other hmem
    · rwa [List.mem_singleton.mp hmem]

/-- **A group that is said to run does not, once a service joined it.** -/
theorem not_runs_addService (hrunning : group.status = .running) {service : ServiceInstance}
    (hservice : service.Unreported) : ¬ (group.addService service).Runs := by
  intro hruns
  obtain ⟨-, hall⟩ := hruns hrunning
  have hjoined := hall service (List.mem_append_right _ (List.mem_singleton.mpr rfl))
  rw [hservice.status] at hjoined
  cases hjoined

end GroupInstance

theorem Instances.unreported_newService (service : Service) (id : String) :
    (newService service id).Unreported := ⟨rfl, rfl, rfl⟩

/-! ### The groups of a document -/

/-- **What holds of new groups, and is kept when a service joins, when a report comes in and when
replicas are counted, holds of all groups of an edited document.** -/
theorem Edit.every_group {memory : Memory} {ids ids' : IdSource} {operation : Operation}
    {before after : Instance} (h : Edit memory ids ids' operation .instances before after)
    {P : GroupInstance → Prop}
    (hnew : ∀ group count id, P (Instances.newGroup group count id))
    (hjoin : ∀ (request : NewServiceInstance) group service id,
      operation = .addServiceInstance request →
      memory.row? .instances request.instanceId = some before →
      before.groupOf? request.serviceGroupId request.groupInstanceId = some group → P group →
      P (group.addService (Instances.newService service id)))
    (hreport : ∀ (request : StatusReport) group, P group →
      P (group.editService request.serviceInstanceId request.apply).withDerivedStatus)
    (hcount : ∀ (group : GroupInstance) replicas, P group → P { group with replicas })
    (hbefore : ∀ group ∈ before.groups, P group) : ∀ group ∈ after.groups, P group := by
  cases h with
  | groupInstances =>
    intro group hmem
    rcases List.mem_append.mp hmem with hmem | hmem
    · exact hbefore group hmem
    · obtain ⟨id, -, rfl⟩ := List.mem_map.mp hmem
      exact hnew _ _ id
  | @serviceInstance request descriptor _ _ service id valid live fetched =>
    intro group hmem
    rcases find?_of_mem_editFirst hmem with hmem | ⟨old, hold, hfound, rfl⟩
    · exact hbefore group hmem
    · exact hjoin request old service id rfl fetched.present hfound (hbefore old hold)
  | @report request =>
    intro group hmem
    rcases mem_editFirst hmem with hmem | ⟨old, hold, -, rfl⟩
    · exact hbefore group hmem
    · exact hreport request old (hbefore old hold)
  | replicas =>
    intro group hmem
    rcases mem_editFirst hmem with hmem | ⟨old, hold, -, rfl⟩
    · exact hbefore group hmem
    · exact hcount old _ (hbefore old hold)
  | status => exact hbefore
  | noGroups => exact nofun

/-! ### The groups of all documents -/

/-- Every group instance of every stored instance has a property. -/
def Memory.EveryGroup (memory : Memory) (P : GroupInstance → Prop) : Prop :=
  ∀ key (app : Instance), memory.row? .instances key = some app → ∀ group ∈ app.groups, P group

namespace Memory.EveryGroup

variable {memory : Memory} {P : GroupInstance → Prop}

theorem empty : Memory.empty.EveryGroup P := by
  intro key app h
  rw [row?_empty] at h
  cases h

theorem put_instance (h : memory.EveryGroup P) {app : Instance} (happ : ∀ group ∈ app.groups, P group) :
    (memory.put .instances app).EveryGroup P := by
  intro key found hfound
  rw [row?_put_self] at hfound
  split at hfound
  · cases hfound
    exact happ
  · exact h key found hfound

theorem put_aside (h : memory.EveryGroup P) (table : Table) (row : table.Row)
    (htable : .instances ≠ table) : (memory.put table row).EveryGroup P := by
  intro key found hfound
  rw [row?_put_of_ne _ _ htable] at hfound
  exact h key found hfound

theorem drop (h : memory.EveryGroup P) (table : Table) (dropped : String) :
    (memory.drop table dropped).EveryGroup P := by
  intro key found hfound
  exact h key found (row?_of_drop hfound)

theorem enter (h : memory.EveryGroup P) (o : String) (kind : ChildKind) (c : String) :
    (memory.enter o kind c).EveryGroup P := h

theorem leave (h : memory.EveryGroup P) (o : String) (kind : ChildKind) (c : String) :
    (memory.leave o kind c).EveryGroup P := h

end Memory.EveryGroup

/-- **What every edit keeps of the groups of a document, every operation keeps of all groups.** -/
theorem Effect.every_group {world world' : World Memory} {trace : List Attempt}
    {operation : Operation} {succeeded : Bool}
    (heffect : Effect world world' trace operation succeeded) {P : GroupInstance → Prop}
    (hedit : ∀ before after, succeeded = true →
      Edit world.store world.ids world'.ids operation .instances before after →
      (∀ group ∈ before.groups, P group) → ∀ group ∈ after.groups, P group)
    (h : world.store.EveryGroup P) : world'.store.EveryGroup P := by
  have hremains : ∀ {o : String} {app : Instance} {snapshot : Snapshot}
      {parameters : Option InstanceParameters} (row entry copy : Bool),
      NewInstanceRows world world' o app snapshot parameters →
      (world.store.remains app snapshot row entry copy).EveryGroup P := by
    intro o app snapshot parameters row entry copy hnew
    refine Memory.remains_induction (motive := fun after => after.EveryGroup P) h
      (fun h => h.put_instance ?_) (fun _ h => h.enter _ _ _)
      (fun _ h => h.put_aside .snapshots snapshot (by decide)) row entry copy
    rw [hnew.no_groups]
    exact nofun
  cases heffect with
  | unchanged store => exact store ▸ h
  | founded organization _ _ store => exact store ▸ h.put_aside .organizations organization (by decide)
  | @edited _ table before after _ present _ store edit =>
    rw [store]
    by_cases htable : .instances = table
    · subst htable
      exact h.put_instance (hedit before after rfl edit (h _ before present))
    · exact h.put_aside table after htable
  | registered row registers _ _ store =>
    have hkind := Operation.registers?_ne_appInstance registers
    exact store ▸ (h.put_aside _ row (Consistent.table_ne hkind _ (Or.inl rfl))).enter _ _ _
  | stored row registers _ _ store =>
    have hkind := Operation.registers?_ne_appInstance registers
    exact store ▸ h.put_aside _ row (Consistent.table_ne hkind _ (Or.inl rfl))
  | removed _ _ _ _ _ store => exact store ▸ (h.drop _ _).leave _ _ _
  | @removedInstance o c app copy given _ _ _ store =>
    rw [store]
    have hgone := (h.drop .instances c).leave o .appInstance c
    exact Memory.removed_induction (motive := fun after => after.EveryGroup P) hgone
      (fun h => h.drop _ _) (fun _ h => h.drop _ _) copy given
  | dropped _ _ _ _ _ _ store => exact store ▸ h.drop _ _
  | unlisted _ _ _ store => exact store ▸ h.leave _ _ _
  | launched app snapshot parameters new _ _ _ _ store =>
    rw [store]
    cases parameters with
    | none => exact hremains true true true new
    | some given => exact (hremains true true true new).put_aside .parameters given (by decide)
  | remaining app snapshot _ new row entry copy _ _ _ _ _ store =>
    exact store ▸ hremains row entry copy new

/-! ### Runs -/

/-- Every group instance of every instance that storage lists has a property. -/
def Store.EveryGroup (store : Store) (P : GroupInstance → Prop) : Prop :=
  ∃ apps, store.rows .instances = .ok apps ∧ ∀ app ∈ apps, ∀ group ∈ app.groups, P group

theorem Store.Faithful.every_group_iff {store : Store} (h : store.Faithful)
    {P : GroupInstance → Prop} : store.EveryGroup P ↔ store.contents.EveryGroup P := by
  have hrows : store.rows .instances = .ok (store.contents.rows .instances).values :=
    (h.perform (.list .instances)).1
  constructor
  · rintro ⟨apps, happs, hevery⟩ key app hrow
    rw [hrows] at happs
    cases happs
    exact hevery app (OrderedMap.mem_values_iff.mpr ⟨key, hrow⟩)
  · intro hevery
    refine ⟨_, hrows, fun app hmem => ?_⟩
    obtain ⟨key, hrow⟩ := OrderedMap.mem_values_iff.mp hmem
    exact hevery key app hrow

/-- A request is accepted that adds a service instance to a group that is said to run. -/
structure World.JoinsLate (world : World Store) (request : NewServiceInstance) : Prop where
  accepted : ((Instances.addService request).runWith .store world).1.isOk = true
  joined : ∃ app group, (world.store.perform (.get .instances request.instanceId)).1 = .ok app ∧
    app.groupOf? request.serviceGroupId request.groupInstanceId = some group ∧
    group.status = .running

section Steps

variable {world : World Store} {operation : Operation} {time : Int64}

/-- What an operation without stops does to the groups of all documents. -/
theorem World.every_group_after {P : GroupInstance → Prop} (hfaithful : world.store.Faithful)
    (hkeyed : world.store.contents.Keyed)
    (hnew : ∀ group count id, P (Instances.newGroup group count id))
    (hjoin : ∀ (request : NewServiceInstance) group service id,
      operation = .addServiceInstance request →
      (group.status = .running → (world.at time).JoinsLate request) → P group →
      P (group.addService (Instances.newService service id)))
    (hreport : ∀ (request : StatusReport) group, P group →
      P (group.editService request.serviceInstanceId request.apply).withDerivedStatus)
    (hcount : ∀ (group : GroupInstance) replicas, P group → P { group with replicas })
    (h : world.store.contents.EveryGroup P) :
    (world.after operation time).store.contents.EveryGroup P := by
  have hat : (world.at time).store.Faithful := hfaithful
  obtain ⟨trace, -, hends⟩ := Procedure.ends_runWith .store operation.procedure (world.at time)
  obtain ⟨heffect, -⟩ := Operation.effect_contents hends hat hkeyed
  refine heffect.every_group (fun before after hok hedit => ?_) h
  refine hedit.every_group hnew (fun request group service id heq hrow hgroup => ?_) hreport hcount
  subst heq
  exact hjoin request group service id rfl fun hrunning =>
    ⟨hok, before, group, hat.get_eq_ok.mpr hrow, hgroup, hrunning⟩

/-- Groups that run do so after an operation that lets nothing join late. -/
theorem World.runs_after (hfaithful : world.store.Faithful) (hkeyed : world.store.contents.Keyed)
    (hlate : ∀ request, operation = .addServiceInstance request →
      ¬ (world.at time).JoinsLate request)
    (h : world.store.contents.EveryGroup GroupInstance.Runs) :
    (world.after operation time).store.contents.EveryGroup GroupInstance.Runs := by
  refine world.every_group_after hfaithful hkeyed ?new ?join ?report ?count h
  case new => exact fun group count id => nofun
  case join =>
    intro request group service id heq hjoins _ hrunning
    exact absurd (hjoins hrunning) (hlate request heq)
  case report => exact fun request group _ => GroupInstance.runs_withDerivedStatus _
  case count => exact fun group replicas h => h

/-- Groups run but for what joined late, whatever the operation. -/
theorem World.runsButLate_after (hfaithful : world.store.Faithful)
    (hkeyed : world.store.contents.Keyed)
    (h : world.store.contents.EveryGroup GroupInstance.RunsButLate) :
    (world.after operation time).store.contents.EveryGroup GroupInstance.RunsButLate := by
  refine world.every_group_after hfaithful hkeyed ?new ?join ?report ?count h
  case new => exact fun group count id => nofun
  case join =>
    intro request group service id _ _ hgroup
    exact hgroup.addService (Instances.unreported_newService service id)
  case report =>
    exact fun request group _ => (GroupInstance.runs_withDerivedStatus _).runsButLate
  case count => exact fun group replicas h => h

/-- **What joins late leaves a group that is said to run and does not.** -/
theorem World.JoinsLate.not_runs_after {request : NewServiceInstance}
    (h : (world.at time).JoinsLate request) (hfaithful : world.store.Faithful)
    (hkeyed : world.store.contents.Keyed) :
    ¬ (world.after (.addServiceInstance request) time).store.contents.EveryGroup
      GroupInstance.Runs := by
  intro hruns
  have hat : (world.at time).store.Faithful := hfaithful
  obtain ⟨app, group, hget, hgroup, hrunning⟩ := h.joined
  have hrow : world.store.contents.row? .instances request.instanceId = some app :=
    hat.get_eq_ok.mp hget
  -- the run over memory answers alike, and so it was accepted there
  obtain ⟨hanswer, hcontents, -⟩ :=
    Program.run_contents (Instances.addService request).run hat
  have hcontents : (world.after (.addServiceInstance request) time).store.contents =
      ((Instances.addService request).runWith .memory (world.at time).contents).2.store :=
    congrArg World.store hcontents
  have haccepted : ((Instances.addService request).runWith .memory (world.at time).contents).1.isOk =
      true := (congrArg Except.isOk hanswer).symm.trans h.accepted
  have hkeyed : (world.at time).contents.store.Keyed := hkeyed
  obtain ⟨found, service, joined, htarget, hjoined, hstore⟩ :=
    Instances.addService_joins hkeyed haccepted
  obtain rfl : found = app :=
    Option.some.inj ((Instances.row?_of_serviceTarget htarget).symm.trans hrow)
  -- the group that the service joined is in the document, and does not run
  rw [hcontents, hstore] at hruns
  have hthere := hruns _ _ (by rw [Memory.row?_put_self]; exact if_pos rfl) _
    (mem_editFirst_of_find? hgroup)
  exact GroupInstance.not_runs_addService hrunning (Instances.unreported_newService service _) hthere

end Steps

/-- **Groups run but for what joined late after every run** without stops. -/
theorem World.runsButLate_afterAll {start : World Store} (hfresh : start.store.Fresh)
    (operations : List (Operation × Int64)) :
    (start.afterAll operations).store.contents.EveryGroup GroupInstance.RunsButLate := by
  induction operations using List.reverseRecOn with
  | nil =>
    show start.store.contents.EveryGroup _
    rw [hfresh.contents_eq]
    exact .empty
  | append_singleton operations step ih =>
    obtain ⟨hfaithful, hkeyed⟩ := World.faithful_afterAll hfresh operations
    rw [World.afterAll_append]
    exact World.runsButLate_after hfaithful hkeyed ih

/-- **A group that is said to run has services that were all reported running, and after them only
such as joined it since; and up to the end of a run all groups that are said to run do, if and only
if no service instance joined a group that was said to run.**  The run is one without stops, from an
empty registry. -/
theorem runs_iff_no_late_join {start : World Store} (hfresh : start.store.Fresh)
    (operations : List (Operation × Int64)) :
    (start.afterAll operations).store.EveryGroup GroupInstance.RunsButLate ∧
    ((∀ earlier, earlier <+: operations →
        (start.afterAll earlier).store.EveryGroup GroupInstance.Runs) ↔
      ∀ earlier request time, earlier ++ [(.addServiceInstance request, time)] <+: operations →
        ¬ ((start.afterAll earlier).at time).JoinsLate request) := by
  have hstate := World.faithful_afterAll hfresh
  refine ⟨?late, ?all, ?none⟩
  case late =>
    exact (hstate operations).1.every_group_iff.mpr (World.runsButLate_afterAll hfresh operations)
  case all =>
    intro hruns earlier request time hprefix hjoins
    obtain ⟨hfaithful, hkeyed⟩ := hstate earlier
    have hafter := (hstate _).1.every_group_iff.mp (hruns _ hprefix)
    rw [World.afterAll_append] at hafter
    exact hjoins.not_runs_after hfaithful hkeyed hafter
  case none =>
    intro hlate earlier hprefix
    refine (hstate earlier).1.every_group_iff.mpr ?_
    induction earlier using List.reverseRecOn with
    | nil =>
      show start.store.contents.EveryGroup _
      rw [hfresh.contents_eq]
      exact .empty
    | append_singleton earlier step ih =>
      obtain ⟨operation, time⟩ := step
      obtain ⟨hfaithful, hkeyed⟩ := hstate earlier
      have hbefore := ih ((List.prefix_append _ _).trans hprefix)
      rw [World.afterAll_append]
      refine World.runs_after hfaithful hkeyed (fun request heq => ?_) hbefore
      cases heq
      exact hlate earlier request time hprefix

/-- One service of a group is reported running, and then a second one joins the group. -/
theorem runs_iff_no_late_join_of_second_service :
    let start : World Store := { store := .memory .empty, ids := .sequential "id", clock := 0 }
    let service : Service := { (default : Service) with name := "api", image := "api:1" }
    let group : ServiceGroup :=
      { (default : ServiceGroup) with name := "web", services := [service] }
    let request : NewServiceInstance :=
      { organizationId := "id-1", descriptorId := "id-2", instanceId := "id-5"
        serviceGroupId := "id-3", groupInstanceId := "id-6", serviceId := "id-4" }
    let earlier : List (Operation × Int64) :=
      [(.addOrganization { (default : NewOrganization) with name := "acme" }, 1),
        (.addDescriptor { (default : NewDescriptor) with
          organizationId := "id-1", name := "shop", groups := [group] }, 2),
        (.addInstance { (default : NewInstance) with
          organizationId := "id-1", descriptorId := "id-2", name := "shop" }, 3),
        (.addGroupInstances
          { organizationId := "id-1", descriptorId := "id-2", instanceId := "id-5"
            serviceGroupId := "id-3", replicaCount := 1 }, 4),
        (.addServiceInstance request, 5),
        (.reportStatus { (default : StatusReport) with
          organizationId := "id-1", instanceId := "id-5", groupInstanceId := "id-6"
          serviceInstanceId := "id-7", status := .running }, 6)]
    let operations := earlier ++ [(.addServiceInstance request, 7)]
    ((start.afterAll earlier).at 7).JoinsLate request ∧
      (start.afterAll operations).store.EveryGroup GroupInstance.RunsButLate ∧
      ¬ ∀ earlier, earlier <+: operations →
        (start.afterAll earlier).store.EveryGroup GroupInstance.Runs := by
  intro start service group request earlier operations
  have haccepted : ((Instances.addService request).runWith .store
      ((start.afterAll earlier).at 7)).1.isOk = true := by
    decide +kernel
  have hrunning : (((((start.afterAll earlier).at 7).store.perform
      (.get .instances "id-5")).1.toOption).bind
      fun app : Instance => app.groupOf? "id-3" "id-6").map (·.status) = some .running := by
    decide +kernel
  have hjoins : ((start.afterAll earlier).at 7).JoinsLate request := by
    obtain ⟨joined, hjoined, hstatus⟩ := Option.map_eq_some_iff.mp hrunning
    obtain ⟨app, happ, hgroup⟩ := Option.bind_eq_some_iff.mp hjoined
    have hget := toOption_eq_some_iff.mp happ
    exact ⟨haccepted, app, joined, hget, hgroup, hstatus⟩
  have hfresh : start.store.Fresh := Or.inl rfl
  obtain ⟨hlate, hiff⟩ := runs_iff_no_late_join hfresh operations
  exact ⟨hjoins, hlate, fun hruns => hiff.mp hruns earlier request 7 (List.prefix_refl _) hjoins⟩

end TenantRegistry
