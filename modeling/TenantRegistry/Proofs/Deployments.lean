/-
TenantRegistry/Proofs/Deployments.lean

Instances deploy what their snapshots offer.

A group instance is made from the snapshot of its instance.  The service
instances in it come later, from the live descriptor, which may have been
edited in between.  Both look for a group by its id, and an id stands for one
group wherever it appears (`Catalogued`); so a service that is found in the
live descriptor is in the snapshot too.

Any calls of any operation may have been stopped.  An instance may then be
left without its snapshot, and a snapshot without its instance.  But an
instance that lost its snapshot never had a group instance, and nothing is ever
stored again under the id of an instance that is gone (`Deployments`).

Main result: `deploys_snapshot`.
-/
import TenantRegistry.Proofs.Catalogue
import TenantRegistry.Proofs.EditFirst
import TenantRegistry.Proofs.Runs

namespace TenantRegistry

/-! ### What is deployed from what -/

/-- A group instance was made from a group, and what is in it from services of that group. -/
structure ServiceGroup.DeployedAs (group : ServiceGroup) (deployed : GroupInstance) : Prop where
  id : deployed.serviceGroupId = group.serviceGroupId
  name : deployed.name = group.name
  services : ∀ made ∈ deployed.services, ∃ service ∈ group.services,
    made.serviceId = service.serviceId ∧ made.name = service.name ∧ made.image = service.image

/-- An instance was made with a snapshot, and each of its group instances from a group of it. -/
structure Snapshot.DeployedAs (snapshot : Snapshot) (app : Instance) : Prop where
  organizationId : snapshot.organizationId = app.organizationId
  descriptorId : snapshot.descriptorId = app.descriptorId
  groups : ∀ deployed ∈ app.groups, ∃ group ∈ snapshot.groups, group.DeployedAs deployed

/-! ### Edits of what is deployed -/

namespace ServiceGroup.DeployedAs

variable {group : ServiceGroup} {deployed : GroupInstance}

/-- A new group instance has nothing in it. -/
theorem newGroup (group : ServiceGroup) (count : UInt32) (id : String) :
    group.DeployedAs (Instances.newGroup group count id) where
  id := rfl
  name := rfl
  services _ h := absurd h List.not_mem_nil

/-- One more service of the group. -/
theorem addService (h : group.DeployedAs deployed) {service : Service}
    (hservice : service ∈ group.services) (id : String) :
    group.DeployedAs (deployed.addService (Instances.newService service id)) where
  id := h.id
  name := h.name
  services made hmade := by
    rcases List.mem_append.mp hmade with hmade | hmade
    · exact h.services made hmade
    · cases List.mem_singleton.mp hmade
      exact ⟨service, hservice, rfl, rfl, rfl⟩

/-- A report says nothing about where a service instance came from. -/
theorem report (h : group.DeployedAs deployed) (request : StatusReport) :
    group.DeployedAs
      (deployed.editService request.serviceInstanceId request.apply).withDerivedStatus where
  id := h.id
  name := h.name
  services made hmade := by
    rcases mem_editFirst hmade with hmade | ⟨before, hbefore, -, rfl⟩
    · exact h.services made hmade
    · exact h.services before hbefore

end ServiceGroup.DeployedAs

/-- The groups of an instance were edited, and each edit kept where a group came from. -/
theorem Snapshot.DeployedAs.edit {snapshot : Snapshot} {before after : Instance}
    {test : GroupInstance → Bool} {edit : GroupInstance → GroupInstance}
    (h : snapshot.DeployedAs before) (horganization : after.organizationId = before.organizationId)
    (hdescriptor : after.descriptorId = before.descriptorId)
    (hgroups : after.groups = editFirst test edit before.groups)
    (hedit : ∀ deployed, test deployed = true → ∀ group ∈ snapshot.groups,
      group.DeployedAs deployed → group.DeployedAs (edit deployed)) :
    snapshot.DeployedAs after where
  organizationId := h.organizationId.trans horganization.symm
  descriptorId := h.descriptorId.trans hdescriptor.symm
  groups deployed hmem := by
    rw [hgroups] at hmem
    rcases mem_editFirst hmem with hmem | ⟨old, hold, htest, rfl⟩
    · exact h.groups deployed hmem
    · obtain ⟨group, hgroup, hdeployed⟩ := h.groups old hold
      exact ⟨group, hgroup, hedit old htest group hgroup hdeployed⟩

section Edits

variable {memory : Memory} {ids ids' : IdSource} {operation : Operation} {before after : Instance}

/-- **An edit of an instance deploys from its snapshot only.** -/
theorem Edit.deployed (h : Edit memory ids ids' operation .instances before after)
    (hkeyed : memory.Keyed) (hcatalogued : Catalogued ids memory) {snapshot : Snapshot}
    (hcopy : memory.row? .snapshots after.instanceId = some snapshot)
    (hbefore : snapshot.DeployedAs before) : snapshot.DeployedAs after := by
  cases h with
  | @groupInstances request _ copy group given valid listed fetched made_from present found =>
    -- the snapshot that was read is the one of this instance
    have hkey : before.instanceId = request.instanceId := hkeyed _ _ _ fetched.present
    have hcopy : memory.row? .snapshots before.instanceId = some snapshot := hcopy
    rw [hkey, present] at hcopy
    cases hcopy
    refine { hbefore with groups := fun deployed hmem => ?_ }
    rcases List.mem_append.mp hmem with hmem | hmem
    · exact hbefore.groups deployed hmem
    · obtain ⟨id, -, rfl⟩ := List.mem_map.mp hmem
      exact ⟨group, List.mem_of_find?_eq_some found, .newGroup group _ id⟩
  | @serviceInstance request descriptor _ live service id valid hlive fetched made_from found
      offered =>
    refine hbefore.edit rfl rfl rfl fun deployed htest group hgroup hdeployed => ?_
    -- the group of the snapshot and the one of the live descriptor have one id
    obtain ⟨hoffered, hlookup⟩ := of_find?_id found
    have htest : deployed.serviceGroupId = request.serviceGroupId := (of_decide_eq_true htest).1
    have hsame : group = live := by
      refine hcatalogued.unique group live ?_ ?_ ?_
      · exact ⟨.snapshots, _, snapshot, hcopy, hgroup⟩
      · exact ⟨.descriptors, _, descriptor, hlive.present, hoffered⟩
      · rw [← hdeployed.id, htest, hlookup]
    have hservice : service ∈ group.services := hsame ▸ List.mem_of_find?_eq_some offered
    exact hdeployed.addService hservice id
  | @report request =>
    refine hbefore.edit rfl rfl rfl fun deployed _ group _ hdeployed => ?_
    exact hdeployed.report request
  | replicas =>
    refine hbefore.edit rfl rfl rfl fun deployed _ group _ hdeployed => ?_
    exact ⟨hdeployed.id, hdeployed.name, hdeployed.services⟩
  | status => exact ⟨hbefore.organizationId, hbefore.descriptorId, hbefore.groups⟩
  | noGroups =>
    exact ⟨hbefore.organizationId, hbefore.descriptorId, fun _ h => absurd h List.not_mem_nil⟩

/-- An instance without a snapshot deploys nothing, and no edit changes that. -/
theorem Edit.deploys_nothing (h : Edit memory ids ids' operation .instances before after)
    (hkeyed : memory.Keyed) (hmissing : memory.row? .snapshots after.instanceId = none)
    (hbefore : before.groups = []) : after.groups = [] := by
  have hnone : ∀ (test : GroupInstance → Bool) (edit : GroupInstance → GroupInstance),
      editFirst test edit before.groups = [] := by
    intro test edit
    rw [hbefore]
    rfl
  cases h with
  | @groupInstances request _ copy group given valid listed fetched made_from present =>
    -- a group instance needs the snapshot
    have hkey : before.instanceId = request.instanceId := hkeyed _ _ _ fetched.present
    have hmissing : memory.row? .snapshots before.instanceId = none := hmissing
    rw [hkey, present] at hmissing
    cases hmissing
  | serviceInstance => exact hnone _ _
  | report => exact hnone _ _
  | replicas => exact hnone _ _
  | status => exact hbefore
  | noGroups => rfl

end Edits

/-! ### The invariant -/

/-- `Deployment ids key app snapshot`: what may be stored under an id, an instance and a snapshot
or only one of them. -/
inductive Deployment (ids : IdSource) (key : String) : Option Instance → Option Snapshot → Prop
  | nothing : Deployment ids key none none
  /-- An instance that lost its snapshot before it deployed anything. -/
  | bare {app : Instance} (drawn : ids.Drawn key) (groups : app.groups = []) :
      Deployment ids key (some app) none
  /-- A snapshot that its instance left behind. -/
  | stale {snapshot : Snapshot} (drawn : ids.Drawn key) : Deployment ids key none (some snapshot)
  | whole {app : Instance} {snapshot : Snapshot} (drawn : ids.Drawn key)
      (deployed : snapshot.DeployedAs app) : Deployment ids key (some app) (some snapshot)

namespace Deployment

variable {ids ids' : IdSource} {key : String} {app : Option Instance} {snapshot : Option Snapshot}

theorem later (h : Deployment ids key app snapshot) (hext : ids.Extends ids') :
    Deployment ids' key app snapshot := by
  cases h with
  | nothing => exact .nothing
  | bare drawn groups => exact .bare (drawn.later hext) groups
  | stale drawn => exact .stale (drawn.later hext)
  | whole drawn deployed => exact .whole (drawn.later hext) deployed

/-- The instance goes, and its snapshot may stay behind. -/
theorem without_instance (h : Deployment ids key app snapshot) :
    Deployment ids key none snapshot := by
  cases h with
  | nothing => exact .nothing
  | bare => exact .nothing
  | stale drawn => exact .stale drawn
  | whole drawn => exact .stale drawn

/-- Under an id that was never drawn there is nothing. -/
theorem eq_none (h : Deployment ids key app snapshot) (hnew : ¬ ids.Drawn key) :
    app = none ∧ snapshot = none := by
  cases h with
  | nothing => exact ⟨rfl, rfl⟩
  | bare drawn => exact absurd drawn hnew
  | stale drawn => exact absurd drawn hnew
  | whole drawn => exact absurd drawn hnew

/-- An instance that deploys anything has a snapshot that offers it. -/
theorem deployed {app : Instance} (h : Deployment ids key (some app) snapshot)
    (hgroups : app.groups ≠ []) : ∃ copy, snapshot = some copy ∧ copy.DeployedAs app := by
  cases h with
  | bare _ groups => exact absurd groups hgroups
  | whole _ deployed => exact ⟨_, rfl, deployed⟩

end Deployment

/-- **Under every id there is a deployment, or a part of one.** -/
def Deployments (ids : IdSource) (memory : Memory) : Prop :=
  ∀ key, Deployment ids key (memory.row? .instances key) (memory.row? .snapshots key)

namespace Deployments

variable {ids ids' : IdSource} {memory : Memory}

theorem empty (ids : IdSource) : Deployments ids .empty := by
  intro key
  rw [Memory.row?_empty, Memory.row?_empty]
  exact .nothing

theorem later (h : Deployments ids memory) (hext : ids.Extends ids') : Deployments ids' memory :=
  fun key => (h key).later hext

theorem enter (h : Deployments ids memory) (o : String) (kind : ChildKind) (c : String) :
    Deployments ids (memory.enter o kind c) := h

theorem leave (h : Deployments ids memory) (o : String) (kind : ChildKind) (c : String) :
    Deployments ids (memory.leave o kind c) := h

/-- Other tables do not matter. -/
theorem put_aside (h : Deployments ids memory) (table : Table) (row : table.Row)
    (hinstances : .instances ≠ table) (hsnapshots : .snapshots ≠ table) :
    Deployments ids (memory.put table row) := by
  intro key
  rw [Memory.row?_put_of_ne _ _ hinstances, Memory.row?_put_of_ne _ _ hsnapshots]
  exact h key

theorem put_instance (h : Deployments ids memory) {app : Instance}
    (happ : Deployment ids app.instanceId (some app) (memory.row? .snapshots app.instanceId)) :
    Deployments ids (memory.put .instances app) := by
  intro key
  rw [Memory.row?_put_self, Memory.row?_put_of_ne _ _ (by decide)]
  split
  · next hkey => exact hkey ▸ happ
  · exact h key

theorem put_snapshot (h : Deployments ids memory) {snapshot : Snapshot}
    (hcopy : Deployment ids snapshot.instanceId (memory.row? .instances snapshot.instanceId)
      (some snapshot)) :
    Deployments ids (memory.put .snapshots snapshot) := by
  intro key
  rw [Memory.row?_put_self, Memory.row?_put_of_ne _ _ (by decide)]
  split
  · next hkey => exact hkey ▸ hcopy
  · exact h key

/-- One row less that is no snapshot. -/
theorem drop (h : Deployments ids memory) (table : Table) (dropped : String)
    (hsnapshots : .snapshots ≠ table) : Deployments ids (memory.drop table dropped) := by
  intro key
  rw [Memory.row?_drop_of_ne _ _ hsnapshots]
  by_cases hinstances : .instances = table
  · subst hinstances
    rw [Memory.row?_drop_self]
    split
    · exact (h key).without_instance
    · exact h key
  · rw [Memory.row?_drop_of_ne _ _ hinstances]
    exact h key

/-- One snapshot less, whose instance is gone. -/
theorem drop_snapshot (h : Deployments ids memory) {dropped : String}
    (hgone : memory.row? .instances dropped = none) :
    Deployments ids (memory.drop .snapshots dropped) := by
  intro key
  rw [Memory.row?_drop_self, Memory.row?_drop_of_ne _ _ (by decide)]
  split
  · next hkey =>
    rw [hkey, hgone]
    exact .nothing
  · exact h key

/-- An edit of an instance. -/
theorem edit (h : Deployments ids memory) (hkeyed : memory.Keyed)
    (hcatalogued : Catalogued ids memory) {operation : Operation} {before after : Instance}
    (hedit : Edit memory ids ids' operation .instances before after) :
    Deployments ids (memory.put .instances after) := by
  refine h.put_instance ?_
  have hstate := h after.instanceId
  have hpresent : memory.row? .instances after.instanceId = some before := hedit.present hkeyed
  rw [hpresent] at hstate
  cases hcopy : memory.row? .snapshots after.instanceId with
  | none =>
    rw [hcopy] at hstate
    cases hstate with
    | bare drawn groups => exact .bare drawn (hedit.deploys_nothing hkeyed hcopy groups)
  | some snapshot =>
    rw [hcopy] at hstate
    cases hstate with
    | whole drawn deployed => exact .whole drawn (hedit.deployed hkeyed hcatalogued hcopy deployed)

end Deployments

/-- A new instance deploys nothing, and has the organization and the descriptor of its snapshot. -/
theorem NewInstanceRows.deployed {world world' : World Memory} {o : String} {app : Instance}
    {snapshot : Snapshot} {parameters : Option InstanceParameters}
    (hnew : NewInstanceRows world world' o app snapshot parameters)
    (hkeyed : world.store.Keyed) : snapshot.DeployedAs app := by
  obtain ⟨descriptor, deviceGroups, hrow, -, hsnapshot⟩ := hnew.descriptor
  obtain ⟨-, -, hmade, -⟩ := Instances.snapshot_ok hsnapshot
  refine { organizationId := ?_, descriptorId := ?_, groups := ?_ }
  · exact hnew.snapshot_owner.trans hnew.owner.symm
  · exact hmade.trans (hkeyed _ _ _ hrow)
  · rw [hnew.no_groups]
    exact fun _ h => absurd h List.not_mem_nil

/-- **Whatever remains of a new instance is a part of a deployment.** -/
theorem NewInstanceRows.deployments {world world' : World Memory} {o : String} {app : Instance}
    {snapshot : Snapshot} {parameters : Option InstanceParameters}
    (hnew : NewInstanceRows world world' o app snapshot parameters)
    (hext : world.ids.Extends world'.ids) (hinjective : Function.Injective world'.ids.name)
    (hkeyed : world.store.Keyed) (h : Deployments world.ids world.store) (row entry copy : Bool) :
    Deployments world'.ids (world.store.remains app snapshot row entry copy) := by
  have hdrawn : world'.ids.Drawn app.instanceId := hnew.issued.drawn
  -- nothing was ever stored under the id
  obtain ⟨hnone, hfree⟩ := (h app.instanceId).eq_none (hnew.issued.not_drawn hext hinjective)
  -- all along, the snapshot may be put beside what is under the id
  refine And.left (Memory.remains_induction
    (motive := fun after => Deployments world'.ids after ∧
      Deployment world'.ids app.instanceId (after.row? .instances app.instanceId) (some snapshot))
    ?before ?put_app (fun _ ih => ih) ?put_copy row entry copy)
  case before =>
    rw [hnone]
    exact ⟨h.later hext, .stale hdrawn⟩
  case put_app =>
    rintro ⟨hdeployments, -⟩
    have hput : (world.store.put .instances app).row? .instances app.instanceId = some app := by
      rw [Memory.row?_put_self]
      exact if_pos rfl
    rw [hput]
    refine ⟨hdeployments.put_instance ?_, .whole hdrawn (hnew.deployed hkeyed)⟩
    rw [hfree]
    exact .bare hdrawn hnew.no_groups
  case put_copy =>
    rintro memory ⟨hdeployments, hbeside⟩
    rw [Memory.row?_put_of_ne _ _ (by decide)]
    refine ⟨hdeployments.put_snapshot ?_, hbeside⟩
    rwa [hnew.snapshot_key]

/-- **Every operation leaves deployments, or parts of them**, whatever is stopped, if ids do not
repeat. -/
theorem Effect.deployments {world world' : World Memory} {trace : List Attempt}
    {operation : Operation} {succeeded : Bool}
    (heffect : Effect world world' trace operation succeeded)
    (hext : world.ids.Extends world'.ids) (hinjective : Function.Injective world'.ids.name)
    (hkeyed : world.store.Keyed) (hcatalogued : Catalogued world.ids world.store)
    (h : Deployments world.ids world.store) : Deployments world'.ids world'.store := by
  have hlater := h.later hext
  -- rows of other tables come and go
  have haside : ∀ {kind : ChildKind} {o : String} (row : kind.Row),
      operation.registers? = some (kind, o) →
      Deployments world'.ids (world.store.put kind.table row) := by
    intro kind o row hregisters
    have hkind := Operation.registers?_ne_appInstance hregisters
    exact hlater.put_aside _ row (Consistent.table_ne hkind _ (Or.inl rfl))
      kind.table_ne_snapshots.symm
  cases heffect with
  | unchanged store => exact store ▸ hlater
  | founded organization _ _ store =>
    exact store ▸ hlater.put_aside .organizations organization (by decide) (by decide)
  | @edited _ table before after _ _ _ store edit =>
    rw [store]
    by_cases htable : table = .instances
    · subst htable
      exact (h.edit hkeyed hcatalogued edit).later hext
    · refine hlater.put_aside table after (Ne.symm htable) ?_
      rintro rfl
      -- no operation edits a snapshot
      cases edit
  | registered row registers _ _ store => exact store ▸ (haside row registers).enter _ _ _
  | stored row registers _ _ store => exact store ▸ haside row registers
  | @removed kind o c row _ _ _ _ store =>
    exact store ▸ (hlater.drop _ c kind.table_ne_snapshots.symm).leave o kind c
  | @removedInstance o c app copy given _ _ _ store =>
    rw [store]
    have hgone := (hlater.drop .instances c (by decide)).leave o .appInstance c
    have hmissing : ((world.store.drop .instances c).leave o .appInstance c).row? .instances c =
        none := by
      rw [Memory.row?_leave, Memory.row?_drop_self, if_pos rfl]
    exact Memory.removed_induction hgone (fun h => h.drop_snapshot hmissing)
      (fun _ h => h.drop .parameters c (by decide)) copy given
  | @dropped kind o c row _ _ _ _ _ store =>
    exact store ▸ hlater.drop _ c kind.table_ne_snapshots.symm
  | unlisted _ _ _ store => exact store ▸ hlater.leave _ _ _
  | launched app snapshot parameters new _ _ _ _ store =>
    rw [store]
    have hremains := new.deployments hext hinjective hkeyed h true true true
    cases parameters with
    | none => exact hremains
    | some given => exact hremains.put_aside .parameters given (by decide) (by decide)
  | remaining app snapshot _ new row entry copy _ _ _ _ _ store =>
    exact store ▸ new.deployments hext hinjective hkeyed h row entry copy

/-! ### Runs -/

/-- **Under every id there is a deployment or a part of one after every run**, whatever was
stopped. -/
theorem Runs.deployments {start world : World Store} {events : List Event}
    (hfresh : start.store.Fresh) (hinjective : Function.Injective start.ids.name)
    (h : Runs start events world) :
    world.store.Faithful ∧ world.store.contents.Keyed ∧
      Catalogued world.ids world.store.contents ∧ Deployments world.ids world.store.contents := by
  induction h with
  | start =>
    rw [hfresh.contents_eq]
    exact ⟨hfresh.faithful, Memory.keyed_empty, .empty _, .empty _⟩
  | @step events world world' operation time trace result before ends ih =>
    obtain ⟨hfaithful, hkeyed, hcatalogued, hdeployments⟩ := ih
    obtain ⟨heffect, hafter⟩ := Operation.effect_contents ends hfaithful hkeyed
    have hext : world.ids.Extends world'.ids := (Program.Ends.extends ends).1
    -- ids of a run do not repeat, for they are named by the source that it began with
    have hinjective : Function.Injective world'.ids.name :=
      (before.step ends).extends.name ▸ hinjective
    exact ⟨hafter, heffect.keyed hkeyed, heffect.catalogued hext hinjective hcatalogued,
      heffect.deployments hext hinjective hkeyed hcatalogued hdeployments⟩

/-- **Every instance that has a group instance has a snapshot, and deploys what it offers**, after
operations of which any calls were stopped, from an empty registry and with ids that do not
repeat. -/
theorem deploys_snapshot {start world : World Store} {events : List Event}
    (hfresh : start.store.Fresh) (hinjective : Function.Injective start.ids.name)
    (h : Runs start events world) :
    ∃ apps, world.store.rows .instances = .ok apps ∧
      ∀ app ∈ apps, app.groups ≠ [] →
        ∃ snapshot : Snapshot,
          (world.store.perform (.get .snapshots app.instanceId)).1 = .ok snapshot ∧
            snapshot.DeployedAs app := by
  obtain ⟨hfaithful, hkeyed, -, hdeployments⟩ := h.deployments hfresh hinjective
  -- storage of either sort answers as its contents do
  have hanswer : ∀ call, (world.store.perform call).1 = (world.store.contents.perform call).1 :=
    fun call => (hfaithful.perform call).1
  refine ⟨_, hanswer (.list .instances), fun app hmem hgroups => ?_⟩
  obtain ⟨key, hrow⟩ := OrderedMap.mem_values_iff.mp hmem
  obtain rfl : app.instanceId = key := hkeyed .instances key app hrow
  have hstate := hdeployments app.instanceId
  rw [Memory.row?, hrow] at hstate
  obtain ⟨snapshot, hcopy, hdeployed⟩ := hstate.deployed hgroups
  refine ⟨snapshot, ?_, hdeployed⟩
  rw [hanswer, Memory.perform_get, hcopy]
  rfl

/-- A service is deployed, and then the groups of its descriptor are replaced; the removal of its
instance is stopped. -/
theorem deploys_snapshot_of_one_service :
    let start : World Store := { store := .memory .empty, ids := .sequential "id", clock := 0 }
    let service : Service := { (default : Service) with name := "api", image := "api:1" }
    let group : ServiceGroup :=
      { (default : ServiceGroup) with name := "web", services := [service] }
    let steps : List (Operation × Int64 × List (Option StoreError)) :=
      [(.addOrganization { (default : NewOrganization) with name := "acme" }, 1, []),
        (.addDescriptor { (default : NewDescriptor) with
          organizationId := "id-1", name := "shop", groups := [group] }, 2, []),
        (.addInstance { (default : NewInstance) with
          organizationId := "id-1", descriptorId := "id-2", name := "shop" }, 3, []),
        (.addGroupInstances { (default : NewGroupInstances) with
          organizationId := "id-1", descriptorId := "id-2", instanceId := "id-5"
          serviceGroupId := "id-3", replicaCount := 1 }, 4, []),
        (.addServiceInstance { (default : NewServiceInstance) with
          organizationId := "id-1", descriptorId := "id-2", instanceId := "id-5"
          serviceGroupId := "id-3", groupInstanceId := "id-6", serviceId := "id-4" }, 5, []),
        (.updateDescriptor { (default : DescriptorEdit) with
          organizationId := "id-1", descriptorId := "id-2", groups := some [group] }, 6, []),
        (.remove .appInstance "id-1" "id-5", 7, [none, some (.write "down")])]
    let world := start.afterStopping steps
    ∃ events apps, Runs start events world ∧ world.store.rows .instances = .ok apps ∧
      (∃ app ∈ apps, ∃ deployed ∈ app.groups, deployed.services ≠ []) ∧
      ∀ app ∈ apps, app.groups ≠ [] →
        ∃ snapshot : Snapshot,
          (world.store.perform (.get .snapshots app.instanceId)).1 = .ok snapshot ∧
            snapshot.DeployedAs app := by
  intro start service group steps world
  have hstart : Runs start [] start := .start
  obtain ⟨events, hruns⟩ := hstart.afterStopping steps
  obtain ⟨apps, happs, hdeploys⟩ :=
    deploys_snapshot (Or.inl rfl) (IdSource.sequential_injective "id") hruns
  have hmade : ∃ app ∈ (world.store.rows .instances).toOption.getD [], ∃ deployed ∈ app.groups,
      deployed.services ≠ [] := by
    decide +kernel
  rw [happs] at hmade
  exact ⟨events, apps, hruns, happs, hmade, hdeploys⟩

end TenantRegistry
