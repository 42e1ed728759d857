/-
TenantRegistry/Registry/Instances.lean

Operations on application instances.

An instance is made with a snapshot of its descriptor, in up to four writes of
which all or none are kept.  After that each operation is one read, an edit of
the document, and one replacement under its revision, so that two writers cannot
undo each other's changes: the later one fails with a conflict.

Group instances come from the snapshot, and service instances from the live
descriptor.
-/
import TenantRegistry.Registry.Descriptors

namespace TenantRegistry

open Procedure

/-- A service instance after a report. -/
def StatusReport.apply (report : StatusReport) (service : ServiceInstance) : ServiceInstance :=
  { service with
    status := report.status
    endpoints := report.endpoints
    deployedOn := report.deployedOn }

/-! ### Snapshots -/

/-- The ids of device groups by their names.  Of groups that share a name the
last counts. -/
def deviceGroupIds (groups : List DeviceGroup) : OrderedMap String :=
  .ofList (groups.map fun group => (group.name, group.deviceGroupId))

/-- A rule with the ids of the device groups that it names. -/
def SecurityRule.resolved (ids : OrderedMap String) (organizationId : String)
    (rule : SecurityRule) : Except RegistryError SecurityRule := do
  let deviceGroupIds ← rule.deviceGroupNames.mapM fun name =>
    (ids.get? name).elim (.error (.notFound (.deviceGroup name organizationId))) .ok
  return { rule with deviceGroupIds }

/-- The snapshot of a descriptor for an instance, among the device groups of
its organization. -/
def Descriptor.snapshot (descriptor : Descriptor) (instanceId : String)
    (groups : List DeviceGroup) : Except RegistryError Snapshot := do
  let rules ← descriptor.rules.mapM
    (SecurityRule.resolved (deviceGroupIds groups) descriptor.organizationId)
  return {
    instanceId, rules
    organizationId := descriptor.organizationId
    descriptorId := descriptor.descriptorId
    name := descriptor.name
    configurationOptions := descriptor.configurationOptions
    environmentVariables := descriptor.environmentVariables
    labels := descriptor.labels
    groups := descriptor.groups }

namespace Instances

/-! ### Making and removing -/

/-- The writes that make an instance, and how to undo each. -/
def creation (app : Instance) (snapshot : Snapshot) (parameters : Option InstanceParameters) :
    List (Write Program RegistryError) :=
  [⟨(perform (.add .instances app)).run,
      (perform (.remove .instances app.instanceId)).run⟩,
    ⟨(perform (.addChild app.organizationId .appInstance app.instanceId)).run,
      (perform (.removeChild app.organizationId .appInstance app.instanceId)).run⟩,
    ⟨(perform (.add .snapshots snapshot)).run,
      (perform (.remove .snapshots app.instanceId)).run⟩] ++
  parameters.toList.map fun given =>
    ⟨(perform (.add .parameters given)).run,
      (perform (.remove .parameters app.instanceId)).run⟩

/-- Make an instance of a descriptor. -/
def add (request : NewInstance) : Procedure Instance := do
  validate request.validate
  requireOrganization request.organizationId
  let descriptor ← Descriptors.get request.organizationId request.descriptorId
  let instanceId ← freshId
  let deviceGroups : List DeviceGroup ← listByOwner .deviceGroups descriptor.organizationId
  let snapshot ← check (descriptor.snapshot instanceId deviceGroups)
  let created ← now
  let app : Instance :=
    { instanceId, created
      organizationId := request.organizationId
      descriptorId := descriptor.descriptorId
      name := request.name
      labels := request.labels
      status := .deploying
      groups := []
      revision := 0 }
  let parameters := request.parameters.map fun parameters =>
    { organizationId := app.organizationId, instanceId, parameters : InstanceParameters }
  ExceptT.mk (UndoLog.empty.writeAll (creation app snapshot parameters))
  return app

/-- Fetch an instance. -/
def get (organizationId instanceId : String) : Procedure Instance :=
  ChildKind.appInstance.get organizationId instanceId

/-- Fetch the snapshot of an instance. -/
def snapshot (organizationId instanceId : String) : Procedure Snapshot := do
  ChildKind.appInstance.require organizationId instanceId
  perform (.get .snapshots instanceId)

/-- Fetch the parameters that an instance was made with. -/
def parameters (organizationId instanceId : String) : Procedure InstanceParameters := do
  ChildKind.appInstance.require organizationId instanceId
  perform (.get .parameters instanceId)

/-- Remove an instance.  Once it is gone its snapshot and its parameters go
too, if they can be deleted. -/
def remove (organizationId instanceId : String) : Procedure Unit := do
  validate (ensureIdentifier "organization_id" organizationId)
  validate (ensureIdentifier "app_instance_id" instanceId)
  ChildKind.appInstance.remove organizationId instanceId
  -- from here on the answer is settled, whatever becomes of the copies
  let _ ← attempt (.remove .snapshots instanceId)
  let _ ← attempt (.remove .parameters instanceId)
  return ()

/-! ### Editing the document -/

/-- Write back an instance that was fetched before. -/
def store (app : Instance) : Procedure Instance :=
  perform (.replace .instances app app.revision)

/-- Fail unless an instance was made from a descriptor. -/
def requireDescriptor (app : Instance) (descriptorId : String) : Procedure Unit :=
  validate (ensure (app.descriptorId = descriptorId)
    (.otherDescriptor app.instanceId app.descriptorId descriptorId))

/-- A group instance that was just made. -/
def newGroup (group : ServiceGroup) (replicaCount : UInt32) (groupInstanceId : String) :
    GroupInstance where
  groupInstanceId := groupInstanceId
  serviceGroupId := group.serviceGroupId
  name := group.name
  status := .scheduled
  replicas := { desired := replicaCount, available := 0, unavailable := 0 }
  services := []

/-- A service instance that was just made. -/
def newService (service : Service) (serviceInstanceId : String) : ServiceInstance where
  serviceInstanceId := serviceInstanceId
  serviceId := service.serviceId
  name := service.name
  image := service.image
  status := .scheduled
  endpoints := []
  deployedOn := none

/-- Add instances of one group of the snapshot, each of which expects as many
replicas as there are new instances. -/
def addGroups (request : NewGroupInstances) : Procedure (List GroupInstance) := do
  validate request.validate
  ChildKind.descriptor.require request.organizationId request.descriptorId
  let app ← get request.organizationId request.instanceId
  requireDescriptor app request.descriptorId
  let snapshot : Snapshot ← perform (.get .snapshots request.instanceId)
  match snapshot.group? request.serviceGroupId with
  | none => throw (.notFound (.serviceGroup request.serviceGroupId request.instanceId))
  | some group => do
    -- one id for each replica that was asked for
    let ids ← freshIds request.replicaCount.toNat
    let created := ids.map (newGroup group request.replicaCount)
    let _ ← store { app with groups := app.groups ++ created }
    return created

/-- Add an instance of a service of the live descriptor to a group instance. -/
def addService (request : NewServiceInstance) : Procedure ServiceInstance := do
  validate request.validate
  let descriptor ← Descriptors.get request.organizationId request.descriptorId
  let app ← get request.organizationId request.instanceId
  requireDescriptor app request.descriptorId
  match (descriptor.group? request.serviceGroupId).bind (·.service? request.serviceId) with
  | none =>
    throw (.notFound (.service request.serviceId request.serviceGroupId request.descriptorId))
  | some service => do
    let serviceInstanceId ← freshId
    let created := newService service serviceInstanceId
    match app.groupOf? request.serviceGroupId request.groupInstanceId with
    | none =>
      throw (.notFound (.groupInstanceOf request.groupInstanceId request.serviceGroupId
        request.instanceId))
    | some _ => do
      let _ ← store (app.editGroupOf request.serviceGroupId request.groupInstanceId
        (·.addService created))
      return created

/-- Record a report on a service instance, and derive the status of its group.
Reports name ids that the registry handed out, so a pair of ids that it does
not know is an inconsistency. -/
def report (request : StatusReport) : Procedure Instance := do
  validate request.validate
  let app ← get request.organizationId request.instanceId
  match app.group? request.groupInstanceId with
  | none => throw (.internal (.noGroupInstance request.instanceId request.groupInstanceId))
  | some group =>
    match group.service? request.serviceInstanceId with
    | none =>
      throw (.internal (.noServiceInstance request.groupInstanceId request.serviceInstanceId))
    | some _ =>
      -- the status of the group follows from those of its services
      store (app.editGroup request.groupInstanceId fun group =>
        (group.editService request.serviceInstanceId request.apply).withDerivedStatus)

/-- Count the replicas of a group instance. -/
def setReplicas (organizationId instanceId groupInstanceId : String)
    (available unavailable : UInt32) : Procedure GroupInstance := do
  validate (ensureIdentifier "organization_id" organizationId)
  validate (ensureIdentifier "app_instance_id" instanceId)
  validate (ensureIdentifier "service_group_instance_id" groupInstanceId)
  let app ← get organizationId instanceId
  match app.group? groupInstanceId with
  | none => throw (.notFound (.groupInstance groupInstanceId instanceId))
  | some group => do
    let count (group : GroupInstance) : GroupInstance :=
      { group with replicas := { group.replicas with available, unavailable } }
    let _ ← store (app.editGroup groupInstanceId count)
    return count group

/-- Set the status of an instance. -/
def setStatus (organizationId instanceId : String) (status : ApplicationStatus) :
    Procedure Instance := do
  validate (ensureIdentifier "organization_id" organizationId)
  validate (ensureIdentifier "app_instance_id" instanceId)
  let app ← get organizationId instanceId
  store { app with status }

/-- Drop all group instances. -/
def removeGroups (organizationId instanceId : String) : Procedure Instance := do
  validate (ensureIdentifier "organization_id" organizationId)
  validate (ensureIdentifier "app_instance_id" instanceId)
  let app ← get organizationId instanceId
  store { app with groups := [] }

end Instances

end TenantRegistry
