/-
TenantRegistry/Instance.lean

Application instances.

An instance is one document: it holds its group instances, and each of these
holds its service instances.  A change to a part is a change to the document,
which is read, edited and written back under its revision.

The status of a group is derived from those of its members
(`ServiceStatus.aggregate`): an error shows at once, then any member on its
way to running, then one on its way out; a group runs only when every member
does.
-/
import TenantRegistry.Descriptor

namespace TenantRegistry

/-! ### Statuses -/

/-- How far the deployment of an instance is. -/
inductive ApplicationStatus where
  | queued
  | planning
  | scheduled
  | deploying
  | running
  | incomplete
  | planningError
  | deploymentError
  | error
  | terminating
  deriving DecidableEq, Inhabited

namespace ApplicationStatus

def all : List ApplicationStatus :=
  [queued, planning, scheduled, deploying, running, incomplete, planningError, deploymentError,
    error, terminating]

def name : ApplicationStatus → String
  | queued => "queued"
  | planning => "planning"
  | scheduled => "scheduled"
  | deploying => "deploying"
  | running => "running"
  | incomplete => "incomplete"
  | planningError => "planning_error"
  | deploymentError => "deployment_error"
  | error => "error"
  | terminating => "terminating"

end ApplicationStatus

/-- How far the deployment of a service, or of a group of services, is. -/
inductive ServiceStatus where
  | scheduled
  | waiting
  | deploying
  | running
  | error
  | terminating
  deriving DecidableEq, Inhabited

namespace ServiceStatus

def all : List ServiceStatus := [scheduled, waiting, deploying, running, error, terminating]

def name : ServiceStatus → String
  | scheduled => "scheduled"
  | waiting => "waiting"
  | deploying => "deploying"
  | running => "running"
  | error => "error"
  | terminating => "terminating"

/-- What was seen of the members of a group so far. -/
structure Tally where
  /-- Some member was seen. -/
  seen : Bool
  /-- Every member seen runs. -/
  allRunning : Bool
  /-- Some member is on its way out. -/
  terminating : Bool
  /-- Some member is on its way to running. -/
  inFlight : Bool
  /-- Some member failed. -/
  failed : Bool
  deriving DecidableEq

namespace Tally

/-- Nothing seen. -/
def none : Tally :=
  { seen := false, allRunning := true, terminating := false, inFlight := false, failed := false }

/-- One more member seen. -/
def add (tally : Tally) : ServiceStatus → Tally
  | .error => { tally with seen := true, allRunning := false, failed := true }
  | .running => { tally with seen := true }
  | .terminating => { tally with seen := true, allRunning := false, terminating := true }
  | .scheduled | .waiting | .deploying =>
    { tally with seen := true, allRunning := false, inFlight := true }

/-- The status that a tally amounts to. -/
def status (tally : Tally) : ServiceStatus :=
  if tally.failed then .error
  else if !tally.seen then .scheduled
  else if tally.allRunning then .running
  else if tally.terminating && !tally.inFlight then .terminating
  else .deploying

end Tally

/-- The status of a group from the statuses of its members. -/
def aggregate (statuses : List ServiceStatus) : ServiceStatus :=
  (statuses.foldl Tally.add Tally.none).status

end ServiceStatus

instance : HasLayout ApplicationStatus :=
  ⟨.choice ApplicationStatus.all ApplicationStatus.name (by intro status; cases status <;> rfl)⟩

instance : HasLayout ServiceStatus :=
  ⟨.choice ServiceStatus.all ServiceStatus.name (by intro status; cases status <;> rfl)⟩

/-! ### The document -/

/-- A reachable address of a deployed service. -/
structure EndpointInstance where
  fqdn : String
  kind : EndpointKind
  port : UInt32
  deriving DecidableEq, Inhabited

/-- A deployed service. -/
structure ServiceInstance where
  serviceInstanceId : String
  serviceId : String
  name : String
  image : String
  status : ServiceStatus
  endpoints : List EndpointInstance
  /-- The cluster the service runs on. -/
  deployedOn : Option String
  deriving DecidableEq, Inhabited

/-- Replica counters of a group instance. -/
structure ReplicaCounts where
  desired : UInt32
  available : UInt32
  unavailable : UInt32
  deriving DecidableEq, Inhabited

/-- A deployed group of services. -/
structure GroupInstance where
  groupInstanceId : String
  serviceGroupId : String
  name : String
  status : ServiceStatus
  replicas : ReplicaCounts
  services : List ServiceInstance
  deriving DecidableEq, Inhabited

/-- A deployment of a descriptor. -/
structure Instance where
  organizationId : String
  instanceId : String
  descriptorId : String
  name : String
  labels : Labels
  status : ApplicationStatus
  groups : List GroupInstance
  created : Int64
  /-- How often the stored document was replaced. -/
  revision : UInt64
  deriving DecidableEq, Inhabited

/-- A parameter given with an instance. -/
structure Parameter where
  name : String
  value : String
  deriving DecidableEq, Inhabited

/-- The parameters given when an instance was made. -/
structure InstanceParameters where
  organizationId : String
  instanceId : String
  parameters : List Parameter
  deriving DecidableEq, Inhabited

instance : HasLayout EndpointInstance where
  layout := .record (.required "fqdn" <| .required "kind" <| .required "port" .nil)
    (fun e => (e.fqdn, e.kind, e.port, ()))
    (fun (fqdn, kind, port, ()) => { fqdn, kind, port })
    (fun _ => rfl)

instance : HasLayout ServiceInstance where
  layout := .record
    (.required "service_instance_id" <| .required "service_id" <| .required "name" <|
      .required "image" <| .required "status" <| .defaulting "endpoints" [] <|
      .trailingOption "deployed_on_cluster_id" .nil)
    (fun s => (s.serviceInstanceId, s.serviceId, s.name, s.image, s.status, s.endpoints,
      s.deployedOn, ()))
    (fun (serviceInstanceId, serviceId, name, image, status, endpoints, deployedOn, ()) =>
      { serviceInstanceId, serviceId, name, image, status, endpoints, deployedOn })
    (fun _ => rfl)

instance : HasLayout ReplicaCounts where
  layout := .record
    (.required "desired_replicas" <| .required "available_replicas" <|
      .required "unavailable_replicas" .nil)
    (fun r => (r.desired, r.available, r.unavailable, ()))
    (fun (desired, available, unavailable, ()) => { desired, available, unavailable })
    (fun _ => rfl)

instance : HasLayout GroupInstance where
  layout := .record
    (.required "service_group_instance_id" <| .required "service_group_id" <|
      .required "name" <| .required "status" <| .required "metadata" <|
      .defaulting "service_instances" [] .nil)
    (fun g => (g.groupInstanceId, g.serviceGroupId, g.name, g.status, g.replicas, g.services, ()))
    (fun (groupInstanceId, serviceGroupId, name, status, replicas, services, ()) =>
      { groupInstanceId, serviceGroupId, name, status, replicas, services })
    (fun _ => rfl)

instance : HasLayout Instance where
  layout := .record
    (.required "organization_id" <| .required "app_instance_id" <|
      .required "app_descriptor_id" <| .required "name" <| .defaulting "labels" .empty <|
      .required "status" <| .defaulting "groups" [] <| .required "created" <|
      .defaulting "revision" 0 .nil)
    (fun i => (i.organizationId, i.instanceId, i.descriptorId, i.name, i.labels, i.status,
      i.groups, i.created, i.revision, ()))
    (fun (organizationId, instanceId, descriptorId, name, labels, status, groups, created,
        revision, ()) =>
      { organizationId, instanceId, descriptorId, name, labels, status, groups, created,
        revision })
    (fun _ => rfl)

instance : HasLayout Parameter where
  layout := .record (.required "name" <| .required "value" .nil)
    (fun p => (p.name, p.value, ()))
    (fun (name, value, ()) => { name, value })
    (fun _ => rfl)

instance : HasLayout InstanceParameters where
  layout := .record
    (.required "organization_id" <| .required "app_instance_id" <| .required "parameters" .nil)
    (fun p => (p.organizationId, p.instanceId, p.parameters, ()))
    (fun (organizationId, instanceId, parameters, ()) =>
      { organizationId, instanceId, parameters })
    (fun _ => rfl)

/-! ### Finding and editing parts -/

/-- The list with its first element that satisfies `test` edited. -/
def editFirst {α : Type} (test : α → Bool) (edit : α → α) : List α → List α
  | [] => []
  | x :: xs => if test x then edit x :: xs else x :: editFirst test edit xs

namespace GroupInstance

/-- The service instance of a group with the given id. -/
def service? (group : GroupInstance) (serviceInstanceId : String) : Option ServiceInstance :=
  group.services.find? fun service => service.serviceInstanceId = serviceInstanceId

/-- The group with one of its service instances edited. -/
def editService (group : GroupInstance) (serviceInstanceId : String)
    (edit : ServiceInstance → ServiceInstance) : GroupInstance :=
  { group with
    services := editFirst (fun service => service.serviceInstanceId = serviceInstanceId) edit
      group.services }

/-- The group with its status derived from its members. -/
def withDerivedStatus (group : GroupInstance) : GroupInstance :=
  { group with status := ServiceStatus.aggregate (group.services.map (·.status)) }

/-- The group with one more service instance, at the end. -/
def addService (group : GroupInstance) (service : ServiceInstance) : GroupInstance :=
  { group with services := group.services ++ [service] }

end GroupInstance

namespace Instance

/-- The group instance with the given id. -/
def group? (app : Instance) (groupInstanceId : String) : Option GroupInstance :=
  app.groups.find? fun group => group.groupInstanceId = groupInstanceId

/-- The group instance with the given pair of ids. -/
def groupOf? (app : Instance) (serviceGroupId groupInstanceId : String) : Option GroupInstance :=
  app.groups.find? fun group =>
    group.serviceGroupId = serviceGroupId ∧ group.groupInstanceId = groupInstanceId

/-- The instance with one of its group instances edited. -/
def editGroup (app : Instance) (groupInstanceId : String) (edit : GroupInstance → GroupInstance) :
    Instance :=
  { app with
    groups := editFirst (fun group => group.groupInstanceId = groupInstanceId) edit app.groups }

/-- The instance with the group instance of a pair of ids edited. -/
def editGroupOf (app : Instance) (serviceGroupId groupInstanceId : String)
    (edit : GroupInstance → GroupInstance) : Instance :=
  { app with
    groups := editFirst
      (fun group => group.serviceGroupId = serviceGroupId ∧ group.groupInstanceId = groupInstanceId)
      edit app.groups }

end Instance

end TenantRegistry
