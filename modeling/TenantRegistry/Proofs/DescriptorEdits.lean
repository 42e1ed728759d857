/-
TenantRegistry/Proofs/DescriptorEdits.lean

What the edit of a descriptor means to the instances that were made from it.

An instance has a snapshot of its descriptor, and group instances are made from
the snapshot.  Reports, counts of replicas and removals do not look at
descriptors at all.  All of these end alike, whether the descriptor was edited
before or not: with the same kind of error or with the same document, but for
the ids that were drawn, since an edit may draw ids too (`SameOutcome`).

A service instance, however, is made from the live descriptor.  If nothing else
is in its way it ends alike exactly if the descriptor offers the same service
before and after the edit (`Instances.sameOutcome_addService_iff`).

Main result: `same_outcome_iff`.
-/
import Mathlib.Data.List.Forall2
import TenantRegistry.Proofs.EditFirst
import TenantRegistry.Proofs.Outcomes
import TenantRegistry.Proofs.Runs

namespace TenantRegistry

open Procedure

/-! ### The same but for ids that were drawn -/

/-- Two ids that are the same, or were drawn as the same one of those to come from their
sources. -/
def IdSource.Renames (ids ids' : IdSource) (id id' : String) : Prop :=
  id = id' ∨ ∃ n, id = ids.name (ids.drawn + n) ∧ id' = ids'.name (ids'.drawn + n)

namespace IdSource

variable {ids ids' : IdSource} {id id' : String}

theorem Renames.refl (ids ids' : IdSource) (id : String) : ids.Renames ids' id id := Or.inl rfl

theorem renames_next (ids ids' : IdSource) : ids.Renames ids' ids.next ids'.next :=
  Or.inr ⟨0, rfl, rfl⟩

theorem Renames.of_rest (h : ids.rest.Renames ids'.rest id id') : ids.Renames ids' id id' := by
  rcases h with rfl | ⟨n, rfl, rfl⟩
  · exact .refl _ _ _
  · refine Or.inr ⟨n + 1, ?_, ?_⟩
    · rw [Nat.add_comm n, ← Nat.add_assoc]
      rfl
    · rw [Nat.add_comm n, ← Nat.add_assoc]
      rfl

/-- As many ids drawn from two sources are renamed one by one. -/
theorem renames_take (ids ids' : IdSource) (count : Nat) :
    List.Forall₂ (ids.Renames ids') (ids.take count) (ids'.take count) := by
  induction count generalizing ids ids' with
  | zero => exact .nil
  | succ count ih => exact .cons (renames_next ids ids') ((ih _ _).imp fun _ _ => Renames.of_rest)

end IdSource

variable {renames : String → String → Prop}

/-- A service instance with its own id renamed. -/
structure ServiceInstance.Matches (renames : String → String → Prop)
    (service service' : ServiceInstance) : Prop where
  id : renames service.serviceInstanceId service'.serviceInstanceId
  rest : service' = { service with serviceInstanceId := service'.serviceInstanceId }

/-- A group instance with its own id renamed, and those of its services. -/
structure GroupInstance.Matches (renames : String → String → Prop)
    (group group' : GroupInstance) : Prop where
  id : renames group.groupInstanceId group'.groupInstanceId
  services : List.Forall₂ (ServiceInstance.Matches renames) group.services group'.services
  rest : group' =
    { group with groupInstanceId := group'.groupInstanceId, services := group'.services }

/-- A document with ids of group instances and of service instances renamed. -/
structure Instance.Matches (renames : String → String → Prop) (app app' : Instance) : Prop where
  groups : List.Forall₂ (GroupInstance.Matches renames) app.groups app'.groups
  rest : app' = { app with groups := app'.groups }

section Matches

variable (hrefl : ∀ id, renames id id)

include hrefl

theorem ServiceInstance.Matches.refl (service : ServiceInstance) :
    service.Matches renames service := ⟨hrefl _, rfl⟩

theorem GroupInstance.Matches.refl (group : GroupInstance) : group.Matches renames group :=
  ⟨hrefl _, List.forall₂_same.mpr fun service _ => .refl hrefl service, rfl⟩

theorem Instance.Matches.refl (app : Instance) : app.Matches renames app :=
  ⟨List.forall₂_same.mpr fun group _ => .refl hrefl group, rfl⟩

end Matches

/-- Lists with a common start match if what comes last does. -/
theorem forall₂_append_singleton_iff {α : Type} {matching : α → α → Prop}
    (hself : ∀ x, matching x x) {xs : List α} {last last' : α} :
    List.Forall₂ matching (xs ++ [last]) (xs ++ [last']) ↔ matching last last' := by
  induction xs with
  | nil => simp
  | cons x xs ih => simp [hself x, ih]

section NewParts

variable (hrefl : ∀ id, renames id id)

include hrefl

/-- A group that two service instances join matches if they do. -/
theorem GroupInstance.matches_addService_iff (group : GroupInstance)
    {service service' : ServiceInstance} :
    (group.addService service).Matches renames (group.addService service') ↔
      service.Matches renames service' := by
  have hlast : List.Forall₂ (ServiceInstance.Matches renames) (group.services ++ [service])
      (group.services ++ [service']) ↔ service.Matches renames service' :=
    forall₂_append_singleton_iff (.refl hrefl)
  exact ⟨fun h => hlast.mp h.services, fun h => ⟨hrefl _, hlast.mpr h, rfl⟩⟩

/-- A document that two service instances are added to matches if they do. -/
theorem Instance.matches_addService_iff {app : Instance} {g c : String} {group : GroupInstance}
    (hgroup : app.groupOf? g c = some group) {service service' : ServiceInstance}
    {revision : UInt64} :
    Instance.Matches renames { app.editGroupOf g c (·.addService service) with revision }
        { app.editGroupOf g c (·.addService service') with revision } ↔
      service.Matches renames service' := by
  refine Iff.trans ⟨Instance.Matches.groups, fun h => ⟨h, rfl⟩⟩ ?_
  refine (forall₂_editFirst_iff (GroupInstance.Matches.refl hrefl) hgroup).trans ?_
  exact GroupInstance.matches_addService_iff hrefl group

/-- A document that as many new group instances are added to matches. -/
theorem Instance.matches_newGroups (app : Instance) (group : ServiceGroup) (count : UInt32)
    (revision : UInt64) {ids ids' : List String} (hids : List.Forall₂ renames ids ids') :
    Instance.Matches renames
      { app with groups := app.groups ++ ids.map (Instances.newGroup group count), revision }
      { app with groups := app.groups ++ ids'.map (Instances.newGroup group count), revision } := by
  refine ⟨List.rel_append (List.forall₂_same.mpr fun group _ => .refl hrefl group) ?_, rfl⟩
  rw [List.forall₂_map_left_iff, List.forall₂_map_right_iff]
  exact hids.imp fun id id' hid => ⟨hid, .nil, rfl⟩

end NewParts

/-- What of a service shows in its instances. -/
def Service.deployed (service : Service) : String × String × String :=
  (service.serviceId, service.name, service.image)

/-- **Service instances match if their services are deployed alike.** -/
theorem Instances.matches_newService_iff {service service' : Service} {id id' : String}
    (hid : renames id id') :
    (newService service id).Matches renames (newService service' id') ↔
      service.deployed = service'.deployed := by
  constructor
  · rintro ⟨-, hrest⟩
    have hservice : service'.serviceId = service.serviceId :=
      congrArg ServiceInstance.serviceId hrest
    have hname : service'.name = service.name := congrArg ServiceInstance.name hrest
    have himage : service'.image = service.image := congrArg ServiceInstance.image hrest
    rw [Service.deployed, Service.deployed, hservice, hname, himage]
  · intro h
    obtain ⟨hservice, h⟩ := Prod.mk.inj h
    obtain ⟨hname, himage⟩ := Prod.mk.inj h
    refine ⟨hid, ?_⟩
    rw [newService, newService, hservice, hname, himage]

/-! ### Two states that differ in descriptors -/

/-- The kind of error that an operation failed with, if it did. -/
def failure? {α : Type} : Except RegistryError α → Option String
  | .ok _ => none
  | .error error => some error.kind

/-- Two results that are the same, or errors of the same kind. -/
def SameUpToKind {α : Type} (result result' : Except RegistryError α) : Prop :=
  result = result' ∨
    ∃ error error', result = .error error ∧ result' = .error error' ∧ error.kind = error'.kind

/-- What is found does not matter to what does not look at it. -/
theorem sameUpToKind_bind {α β : Type} {result result' : Except RegistryError α}
    (h : failure? result = failure? result') (rest : Except RegistryError β) :
    SameUpToKind (result >>= fun _ => rest) (result' >>= fun _ => rest) := by
  cases result with
  | ok value =>
    cases result' with
    | ok value' => exact Or.inl rfl
    | error error' => cases h
  | error error =>
    cases result' with
    | ok value' => cases h
    | error error' => exact Or.inr ⟨error, error', rfl, rfl, Option.some.inj h⟩

/-- **Whether a child is fetched is a matter of its entry and its owner.** -/
theorem Memory.failure?_fetch (memory : Memory) (kind : ChildKind) (o c : String) :
    failure? (memory.fetch kind o c) =
      if memory.hasChild o kind c then
        match memory.ownerAt kind.table c with
        | none => some "not_found"
        | some owner => if owner = some o then none else some "internal"
      else some "not_found" := by
  rw [fetch, require, find, ownerAt]
  split
  · cases memory.row? kind.table c with
    | none => rfl
    | some row =>
      show failure? (if kind.table.owner? row = some o then _ else _) =
        if kind.table.owner? row = some o then _ else _
      split
      · rfl
      · rfl
  · rfl

/-- Two states of memory with the same descriptors but for what is in them. -/
structure Redescribed (memory memory' : Memory) : Prop where
  rows : ∀ table, table ≠ .descriptors → ∀ key, memory'.row? table key = memory.row? table key
  children : memory'.children = memory.children
  owners : ∀ key, memory'.ownerAt .descriptors key = memory.ownerAt .descriptors key

namespace Redescribed

variable {memory memory' : Memory} (h : Redescribed memory memory')

include h

theorem require (kind : ChildKind) (o c : String) :
    memory'.require kind o c = memory.require kind o c := by
  rw [Memory.require, Memory.hasChild, h.children]
  rfl

theorem find {table : Table} (htable : table ≠ .descriptors) (key : String) :
    memory'.find table key = memory.find table key := by
  rw [Memory.find, h.rows table htable, Memory.find]

theorem fetch {kind : ChildKind} (hkind : kind.table ≠ .descriptors) (o c : String) :
    memory'.fetch kind o c = memory.fetch kind o c := by
  rw [Memory.fetch, h.require, h.find hkind, Memory.fetch]

theorem removable {kind : ChildKind} (hkind : kind.table ≠ .descriptors) (o c : String) :
    memory'.removable kind o c = memory.removable kind o c := by
  rw [Memory.removable, h.require, h.find hkind, Memory.removable]

/-- A descriptor is fetched from both, or from neither for the same kind of reason. -/
theorem failure?_fetch (o c : String) :
    failure? (memory'.fetch .descriptor o c) = failure? (memory.fetch .descriptor o c) := by
  rw [Memory.failure?_fetch, Memory.failure?_fetch, Memory.hasChild, h.children, h.owners]
  rfl

end Redescribed

/-! ### Two ends of an operation -/

/-- What is the same about an instance in two ends of an operation: the kind of error, if there is
one, and the document but for renamed ids, if there is one. -/
structure SameOutcome {α : Type} (renames : String → String → Prop) (i : String)
    (ended ended' : Except RegistryError α × World Memory) : Prop where
  failure : failure? ended.1 = failure? ended'.1
  document : Option.Rel (Instance.Matches renames) (ended.2.store.row? .instances i)
    (ended'.2.store.row? .instances i)

/-- Documents that are put under the same key match if they do. -/
theorem rel_put_iff {memory memory' : Memory} {app app' : Instance} {i : String}
    (hid : app.instanceId = i) (hid' : app'.instanceId = i) :
    Option.Rel (Instance.Matches renames) ((memory.put .instances app).row? .instances i)
        ((memory'.put .instances app').row? .instances i) ↔ app.Matches renames app' := by
  have hkey : i = Table.key .instances app := hid.symm
  have hkey' : i = Table.key .instances app' := hid'.symm
  rw [Memory.row?_put_self, Memory.row?_put_self, if_pos hkey, if_pos hkey', Option.rel_some_some]

section Ends

variable {α γ : Type} {world world' : World Memory} {i : String}
  (h : Redescribed world.store world'.store)

include h

/-- Documents are no descriptors. -/
theorem Redescribed.document (hrefl : ∀ id, renames id id) (i : String) :
    Option.Rel (Instance.Matches renames) (world.store.row? .instances i)
      (world'.store.row? .instances i) := by
  rw [h.rows .instances (by decide)]
  cases world.store.row? .instances i with
  | none => exact .none
  | some app => exact .some (.refl hrefl app)

theorem Redescribed.document_put (hrefl : ∀ id, renames id id) {app app' : Instance}
    (happ : app.Matches renames app') (i : String) :
    Option.Rel (Instance.Matches renames) ((world.store.put .instances app).row? .instances i)
      ((world'.store.put .instances app').row? .instances i) := by
  have hid : app'.instanceId = app.instanceId := by rw [happ.rest]
  have hkey : Table.key .instances app' = Table.key .instances app := hid
  rw [Memory.row?_put_self, Memory.row?_put_self, hkey]
  split
  · exact .some happ
  · exact h.document hrefl i

/-- **What looks for the same and finishes alike ends alike.** -/
theorem SameOutcome.outcome (hrefl : ∀ id, renames id id) {target target' : Except RegistryError γ}
    (htarget : target' = target) {finish finish' : γ → Except RegistryError α × World Memory}
    (hfinish : ∀ found, SameOutcome renames i (finish found) (finish' found)) :
    SameOutcome renames i (outcome world target finish) (outcome world' target' finish') := by
  rw [htarget]
  cases target with
  | error error => exact ⟨rfl, h.document hrefl i⟩
  | ok found => exact hfinish found

end Ends

namespace Instances

variable {world world' : World Memory} (h : Redescribed world.store world'.store)

section

include h

theorem sameOutcome_addGroups (hkeyed : world.store.Keyed) (hkeyed' : world'.store.Keyed)
    (request : NewGroupInstances) :
    SameOutcome (world.ids.Renames world'.ids) request.instanceId
      ((addGroups request).runWith .memory world) ((addGroups request).runWith .memory world') := by
  have hrefl := IdSource.Renames.refl world.ids world'.ids
  rw [runWith_addGroups hkeyed, runWith_addGroups hkeyed']
  refine .outcome h hrefl ?_ fun (app, group) => ⟨rfl, h.document_put hrefl ?_ _⟩
  · rw [groupTarget, h.require, h.fetch (by decide), h.find (by decide), groupTarget]
  · exact app.matches_newGroups hrefl group _ _ (IdSource.renames_take _ _ _)

theorem sameOutcome_report (hkeyed : world.store.Keyed) (hkeyed' : world'.store.Keyed)
    (request : StatusReport) :
    SameOutcome (world.ids.Renames world'.ids) request.instanceId
      ((report request).runWith .memory world) ((report request).runWith .memory world') := by
  have hrefl := IdSource.Renames.refl world.ids world'.ids
  rw [runWith_report hkeyed, runWith_report hkeyed']
  refine .outcome h hrefl ?_ fun app => ⟨rfl, h.document_put hrefl (.refl hrefl _) _⟩
  rw [reportTarget, h.fetch (by decide), reportTarget]

theorem sameOutcome_setReplicas (hkeyed : world.store.Keyed) (hkeyed' : world'.store.Keyed)
    (o i g : String) (available unavailable : UInt32) :
    SameOutcome (world.ids.Renames world'.ids) i
      ((setReplicas o i g available unavailable).runWith .memory world)
      ((setReplicas o i g available unavailable).runWith .memory world') := by
  have hrefl := IdSource.Renames.refl world.ids world'.ids
  rw [runWith_setReplicas hkeyed, runWith_setReplicas hkeyed']
  refine .outcome h hrefl ?_ fun (app, group) => ⟨rfl, h.document_put hrefl (.refl hrefl _) _⟩
  rw [replicaTarget, h.fetch (by decide), replicaTarget]

theorem sameOutcome_remove (o i : String) :
    SameOutcome (world.ids.Renames world'.ids) i
      ((remove o i).runWith .memory world) ((remove o i).runWith .memory world') := by
  have hrefl := IdSource.Renames.refl world.ids world'.ids
  rw [runWith_remove, runWith_remove]
  refine .outcome h hrefl ?_ fun _ => ⟨rfl, ?_⟩
  · rw [removalTarget, h.removable (by decide), removalTarget]
  · have hgone (memory : Memory) : ((((memory.drop .instances i).leave o .appInstance i).drop
        .snapshots i).drop .parameters i).row? .instances i = none :=
      memory.row?_removedInstance o i false false
    dsimp only
    rw [hgone, hgone]
    exact .none

end

/-! ### Service instances -/

/-- What adding a service instance looks for before it looks into the descriptor. -/
def serviceLook (request : NewServiceInstance) (memory : Memory) :
    Except RegistryError Instance := do
  valid request.validate
  let _ ← memory.fetch .descriptor request.organizationId request.descriptorId
  let app : Instance ← memory.fetch .appInstance request.organizationId request.instanceId
  madeFrom app request.descriptorId
  return app

end Instances

/-- The service that the live descriptor offers for a request. -/
def Memory.offered (memory : Memory) (request : NewServiceInstance) : Option Service :=
  (memory.row? .descriptors request.descriptorId).bind fun descriptor : Descriptor =>
    (descriptor.group? request.serviceGroupId).bind (·.service? request.serviceId)

/-- Nothing is in the way of a request but what the descriptor offers. -/
structure Memory.Awaits (memory : Memory) (request : NewServiceInstance) : Prop where
  valid : request.validate = .ok ()
  live : ∃ descriptor : Descriptor,
    memory.Fetched .descriptor request.organizationId request.descriptorId descriptor
  group : ∃ app : Instance,
    memory.Fetched .appInstance request.organizationId request.instanceId app ∧
      app.descriptorId = request.descriptorId ∧
      app.groupOf? request.serviceGroupId request.groupInstanceId ≠ none

namespace Instances

variable {world world' : World Memory} {request : NewServiceInstance}

theorem serviceLook_eq_ok {memory : Memory} {app : Instance} :
    serviceLook request memory = .ok app ↔ request.validate = .ok () ∧
      (∃ descriptor : Descriptor,
        memory.Fetched .descriptor request.organizationId request.descriptorId descriptor) ∧
      memory.Fetched .appInstance request.organizationId request.instanceId app ∧
      app.descriptorId = request.descriptorId := by
  constructor
  · intro h
    obtain ⟨⟨⟩, hvalid, h⟩ := bind_eq_ok_iff.mp h
    obtain ⟨descriptor, hlive, h⟩ := bind_eq_ok_iff.mp h
    obtain ⟨found, happ, h⟩ := bind_eq_ok_iff.mp h
    obtain ⟨⟨⟩, hmade, h⟩ := bind_eq_ok_iff.mp h
    cases h
    exact ⟨valid_eq_ok.mp hvalid, ⟨descriptor, Memory.fetch_eq_ok.mp hlive⟩,
      Memory.fetch_eq_ok.mp happ, madeFrom_eq_ok.mp hmade⟩
  · rintro ⟨hvalid, ⟨descriptor, hlive⟩, happ, hmade⟩
    rw [serviceLook, valid_eq_ok.mpr hvalid, Memory.fetch_eq_ok.mpr hlive,
      Memory.fetch_eq_ok.mpr happ]
    show (madeFrom app request.descriptorId >>= fun _ => Except.ok app) = .ok app
    rw [madeFrom_eq_ok.mpr hmade]
    rfl

theorem awaits_iff {memory : Memory} : memory.Awaits request ↔
    ∃ app, serviceLook request memory = .ok app ∧
      app.groupOf? request.serviceGroupId request.groupInstanceId ≠ none := by
  simp only [serviceLook_eq_ok]
  constructor
  · rintro ⟨hvalid, hlive, app, happ, hmade, hgroup⟩
    exact ⟨app, ⟨hvalid, hlive, happ, hmade⟩, hgroup⟩
  · rintro ⟨app, ⟨hvalid, hlive, happ, hmade⟩, hgroup⟩
    exact ⟨hvalid, hlive, app, happ, hmade, hgroup⟩

/-- The descriptor is looked into last. -/
theorem serviceTarget_eq (request : NewServiceInstance) (memory : Memory) :
    serviceTarget request memory = serviceLook request memory >>= fun app =>
      match memory.offered request with
      | none =>
        .error (.notFound (.service request.serviceId request.serviceGroupId request.descriptorId))
      | some service => .ok (app, service) := by
  rw [serviceTarget, serviceLook]
  cases valid request.validate with
  | error error => rfl
  | ok accepted =>
    cases hlive : memory.fetch .descriptor request.organizationId request.descriptorId with
    | error error => rfl
    | ok descriptor =>
      have hrow : memory.row? .descriptors request.descriptorId = some descriptor :=
        (Memory.fetch_eq_ok.mp hlive).present
      rw [Memory.offered, hrow]
      cases memory.fetch .appInstance request.organizationId request.instanceId with
      | error error => rfl
      | ok app =>
        show (madeFrom app _ >>= _) = (madeFrom app _ >>= _) >>= _
        cases madeFrom app request.descriptorId with
        | error error => rfl
        | ok made => rfl

/-- Up to the descriptor the same is found, or the same kind of error. -/
theorem serviceLook_redescribed (h : Redescribed world.store world'.store)
    (request : NewServiceInstance) :
    SameUpToKind (serviceLook request world.store) (serviceLook request world'.store) := by
  rw [serviceLook, serviceLook, h.fetch (by decide : ChildKind.appInstance.table ≠ .descriptors)]
  cases valid request.validate with
  | error error => exact Or.inl rfl
  | ok accepted => exact sameUpToKind_bind (h.failure?_fetch _ _).symm _

/-- How a service instance is added once the instance is found. -/
theorem runWith_addService_of_look (hkeyed : world.store.Keyed) {app : Instance}
    (hlook : serviceLook request world.store = .ok app) :
    (addService request).runWith .memory world =
      match world.store.offered request with
      | none =>
        (.error (.notFound (.service request.serviceId request.serviceGroupId
          request.descriptorId)), world)
      | some service =>
        match app.groupOf? request.serviceGroupId request.groupInstanceId with
        | none =>
          (.error (.notFound (.groupInstanceOf request.groupInstanceId request.serviceGroupId
            request.instanceId)), { world with ids := world.ids.rest })
        | some _ =>
          (.ok (newService service world.ids.next),
            { store := world.store.put .instances
                { app.editGroupOf request.serviceGroupId request.groupInstanceId
                    (·.addService (newService service world.ids.next)) with
                  revision := app.revision + 1 }
              ids := world.ids.rest
              clock := world.clock }) := by
  rw [runWith_addService hkeyed, serviceTarget_eq, hlook]
  cases world.store.offered request with
  | none => rfl
  | some service => rfl

/-- **A service instance is added alike if its service is offered alike**, unless something else is
in the way. -/
theorem sameOutcome_addService_iff (h : Redescribed world.store world'.store)
    (hkeyed : world.store.Keyed) (hkeyed' : world'.store.Keyed) (request : NewServiceInstance) :
    SameOutcome (world.ids.Renames world'.ids) request.instanceId
        ((addService request).runWith .memory world)
        ((addService request).runWith .memory world') ↔
      (world.store.Awaits request →
        (world.store.offered request).map Service.deployed =
          (world'.store.offered request).map Service.deployed) := by
  have hrefl := IdSource.Renames.refl world.ids world'.ids
  have hdocument := h.document hrefl request.instanceId
  rw [awaits_iff]
  cases hlook : serviceLook request world.store with
  | error error =>
    refine iff_of_true ?_ (by rintro ⟨app, ⟨⟩, -⟩)
    rw [runWith_addService hkeyed, runWith_addService hkeyed', serviceTarget_eq, serviceTarget_eq]
    rcases serviceLook_redescribed h request with hsame | ⟨_, error', hfailed, hlook', hkind⟩
    · rw [← hsame, hlook]
      exact ⟨rfl, hdocument⟩
    · cases hlook.symm.trans hfailed
      rw [hlook, hlook']
      exact ⟨congrArg some hkind, hdocument⟩
  | ok app =>
    have hlook' : serviceLook request world'.store = .ok app := by
      rcases serviceLook_redescribed h request with hsame | ⟨_, _, hfailed, -, -⟩
      · exact hsame.symm.trans hlook
      · cases hlook.symm.trans hfailed
    rw [runWith_addService_of_look hkeyed hlook, runWith_addService_of_look hkeyed' hlook']
    cases hgroup : app.groupOf? request.serviceGroupId request.groupInstanceId with
    | none =>
      -- without the group instance nothing is found, whatever is offered
      refine iff_of_true ?_ ?_
      · cases world.store.offered request with
        | none =>
          cases world'.store.offered request with
          | none => exact ⟨rfl, hdocument⟩
          | some service' => exact ⟨rfl, hdocument⟩
        | some service =>
          cases world'.store.offered request with
          | none => exact ⟨rfl, hdocument⟩
          | some service' => exact ⟨rfl, hdocument⟩
      · rintro ⟨_, ⟨⟩, hthere⟩
        exact absurd hgroup hthere
    | some group =>
      have hawaits : (∃ found, Except.ok app = (Except.ok found : Except RegistryError Instance) ∧
          found.groupOf? request.serviceGroupId request.groupInstanceId ≠ none) :=
        ⟨app, rfl, by rw [hgroup]; exact nofun⟩
      rw [forall_prop_of_true hawaits]
      cases world.store.offered request with
      | none =>
        cases world'.store.offered request with
        | none => exact iff_of_true ⟨rfl, hdocument⟩ rfl
        | some service' => exact iff_of_false (fun hsame => nomatch hsame.failure) nofun
      | some service =>
        cases world'.store.offered request with
        | none => exact iff_of_false (fun hsame => nomatch hsame.failure) nofun
        | some service' =>
          -- both are added to the same group, and there they match if their services do
          have hid : app.instanceId = request.instanceId :=
            hkeyed _ _ _ (serviceLook_eq_ok.mp hlook).2.2.1.present
          have hnext := IdSource.renames_next world.ids world'.ids
          refine Iff.trans ⟨SameOutcome.document, fun hdocument => ⟨rfl, hdocument⟩⟩ ?_
          refine (rel_put_iff ?key ?key').trans ?matching
          case key => exact hid
          case key' => exact hid
          case matching =>
            refine (Instance.matches_addService_iff hrefl hgroup).trans ?_
            rw [matches_newService_iff hnext, Option.map_some, Option.map_some, Option.some.injEq]

end Instances

/-! ### Runs -/

/-- An operation on what an instance deploys: one that adds to it, reports on it, counts it or
removes it. -/
inductive Operation.Deploys (i : String) : Operation → Prop
  | groupInstances (request : NewGroupInstances) (on : request.instanceId = i) :
      Deploys i (.addGroupInstances request)
  | serviceInstance (request : NewServiceInstance) (on : request.instanceId = i) :
      Deploys i (.addServiceInstance request)
  | report (request : StatusReport) (on : request.instanceId = i) : Deploys i (.reportStatus request)
  | replicas (o g : String) (available unavailable : UInt32) :
      Deploys i (.setReplicas o i g available unavailable)
  | removal (o : String) : Deploys i (.remove .appInstance o i)

/-- An edit of a descriptor changes what is in a descriptor, or nothing. -/
theorem Effect.redescribed {world world' : World Memory} {trace : List Attempt}
    {edit : DescriptorEdit} {succeeded : Bool}
    (h : Effect world world' trace (.updateDescriptor edit) succeeded) :
    Redescribed world.store world'.store := by
  cases h with
  | unchanged store =>
    rw [store]
    exact ⟨fun _ _ _ => rfl, rfl, fun _ => rfl⟩
  | edited before after edits present owner store =>
    cases edits
    rw [store]
    exact ⟨fun _ htable => Memory.row?_put_of_ne _ _ htable, rfl,
      Memory.ownerAt_put_of_owner present owner .descriptors⟩
  | registered _ registers => cases registers
  | stored _ registers => cases registers

/-- How an operation without stops ends, and what storage holds then. -/
def World.ended (world : World Store) (operation : Operation) (time : Int64) :
    Except RegistryError operation.Answer × World Memory :=
  let ended := operation.procedure.runWith .store (world.at time)
  (ended.1, ended.2.contents)

theorem World.ended_eq {world : World Store} (hfaithful : world.store.Faithful)
    (operation : Operation) (time : Int64) :
    world.ended operation time = operation.procedure.runWith .memory (world.at time).contents := by
  have hat : (world.at time).store.Faithful := hfaithful
  obtain ⟨hanswer, hcontents, -⟩ := Program.run_contents operation.procedure.run hat
  exact Prod.ext hanswer hcontents

/-- **An operation on what an instance deploys ends alike after an edit of a descriptor**, unless it
adds a service instance with nothing else in its way; then it does if the descriptor offers the
same service before and after the edit, and only then. -/
theorem same_outcome_iff {start : World Store} (hfresh : start.store.Fresh)
    (operations : List (Operation × Int64)) (edit : DescriptorEdit) (edited time : Int64)
    {operation : Operation} {i : String} (hdeploys : operation.Deploys i) :
    let world := start.afterAll operations
    let updated := world.after (.updateDescriptor edit) edited
    SameOutcome (world.ids.Renames updated.ids) i (world.ended operation time)
        (updated.ended operation time) ↔
      ∀ request, operation = .addServiceInstance request → world.store.contents.Awaits request →
        (world.store.contents.offered request).map Service.deployed =
          (updated.store.contents.offered request).map Service.deployed := by
  intro world updated
  obtain ⟨hfaithful, hkeyed⟩ := World.faithful_afterAll hfresh operations
  obtain ⟨trace, -, hends⟩ :=
    Procedure.ends_runWith .store (Operation.updateDescriptor edit).procedure (world.at edited)
  obtain ⟨heffect, hafter⟩ := Operation.effect_contents hends hfaithful hkeyed
  have hfaithful' : updated.store.Faithful := hafter
  have hkeyed' : updated.store.contents.Keyed := heffect.keyed hkeyed
  have hredescribed : Redescribed (world.at time).contents.store (updated.at time).contents.store :=
    heffect.redescribed
  rw [World.ended_eq hfaithful, World.ended_eq hfaithful']
  -- but for service instances there is nothing to ask
  have hothers : (∀ request, operation ≠ .addServiceInstance request) →
      ∀ request, operation = .addServiceInstance request → world.store.contents.Awaits request →
        (world.store.contents.offered request).map Service.deployed =
          (updated.store.contents.offered request).map Service.deployed :=
    fun hnot request heq => absurd heq (hnot request)
  cases hdeploys with
  | groupInstances request on =>
    subst on
    exact iff_of_true (Instances.sameOutcome_addGroups hredescribed hkeyed hkeyed' request)
      (hothers nofun)
  | serviceInstance request on =>
    subst on
    refine (Instances.sameOutcome_addService_iff hredescribed hkeyed hkeyed' request).trans ?_
    constructor
    · rintro hsame _ ⟨⟩
      exact hsame
    · exact fun hsame => hsame request rfl
  | report request on =>
    subst on
    exact iff_of_true (Instances.sameOutcome_report hredescribed hkeyed hkeyed' request)
      (hothers nofun)
  | replicas o g available unavailable =>
    exact iff_of_true (Instances.sameOutcome_setReplicas hredescribed hkeyed hkeyed' o i g _ _)
      (hothers nofun)
  | removal o =>
    exact iff_of_true (Instances.sameOutcome_remove hredescribed o i) (hothers nofun)

/-- The groups of a descriptor are given anew, and a service is asked for that had been offered. -/
theorem same_outcome_iff_of_renewed_groups :
    let start : World Store := { store := .memory .empty, ids := .sequential "id", clock := 0 }
    let service : Service := { (default : Service) with name := "api", image := "api:1" }
    let group : ServiceGroup :=
      { (default : ServiceGroup) with name := "web", services := [service] }
    let operations : List (Operation × Int64) :=
      [(.addOrganization { (default : NewOrganization) with name := "acme" }, 1),
        (.addDescriptor { (default : NewDescriptor) with
          organizationId := "id-1", name := "shop", groups := [group] }, 2),
        (.addInstance { (default : NewInstance) with
          organizationId := "id-1", descriptorId := "id-2", name := "shop" }, 3),
        (.addGroupInstances
          { organizationId := "id-1", descriptorId := "id-2", instanceId := "id-5"
            serviceGroupId := "id-3", replicaCount := 1 }, 4)]
    let edit : DescriptorEdit :=
      { (default : DescriptorEdit) with
        organizationId := "id-1", descriptorId := "id-2", groups := some [group] }
    let request : NewServiceInstance :=
      { organizationId := "id-1", descriptorId := "id-2", instanceId := "id-5"
        serviceGroupId := "id-3", groupInstanceId := "id-6", serviceId := "id-4" }
    let world := start.afterAll operations
    let updated := world.after (.updateDescriptor edit) 5
    failure? (world.ended (.addServiceInstance request) 6).1 = none ∧
      failure? (updated.ended (.addServiceInstance request) 6).1 = some "not_found" ∧
      ¬ SameOutcome (world.ids.Renames updated.ids) "id-5"
          (world.ended (.addServiceInstance request) 6)
          (updated.ended (.addServiceInstance request) 6) := by
  intro start service group operations edit request world updated
  refine ⟨by decide +kernel, by decide +kernel, fun hsame => ?_⟩
  have hlook : ((Instances.serviceLook request world.store.contents).toOption.bind
      (·.groupOf? "id-3" "id-6")).isSome = true := by
    decide +kernel
  have hawaits : world.store.contents.Awaits request := by
    obtain ⟨joined, hjoined⟩ := Option.isSome_iff_exists.mp hlook
    obtain ⟨app, hfound, hgroup⟩ := Option.bind_eq_some_iff.mp hjoined
    have hthere : app.groupOf? "id-3" "id-6" ≠ none := by
      rw [hgroup]
      exact Option.some_ne_none joined
    exact Instances.awaits_iff.mpr ⟨app, toOption_eq_some_iff.mp hfound, hthere⟩
  have hfresh : start.store.Fresh := Or.inl rfl
  have hiff := same_outcome_iff hfresh operations edit 5 6
    (.serviceInstance request rfl : Operation.Deploys "id-5" (.addServiceInstance request))
  have hoffered := hiff.mp hsame request rfl hawaits
  exact absurd hoffered (by decide +kernel)

end TenantRegistry
