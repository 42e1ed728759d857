/-
TenantRegistry/Descriptor.lean

Application descriptors, and the snapshots that instances deploy from.

A descriptor is a template: groups of services that are scheduled together,
and rules on who may reach them.  Groups, services and rules carry ids that
the registry assigns when the descriptor is written.

A snapshot is the copy of a descriptor that one instance deploys from.  It is
taken when the instance is made; its rules also have the ids of the device
groups that they name.
-/
import TenantRegistry.Json.Layout

namespace TenantRegistry

/-! ### Enumerations -/

/-- Where the services of a group may be placed. -/
inductive CollocationPolicy where
  | sameCluster
  | separateClusters
  deriving DecidableEq, Inhabited

/-- What an endpoint serves. -/
inductive EndpointKind where
  | rest
  | web
  | prometheus
  | ingestion
  deriving DecidableEq, Inhabited

/-- How a mount is kept. -/
inductive StorageKind where
  | ephemeral
  | clusterLocal
  | clusterReplica
  | cloudPersistent
  deriving DecidableEq, Inhabited

/-- Who a rule lets in. -/
inductive PortAccess where
  | allAppServices
  | appServices
  | openToAll
  | deviceGroup
  deriving DecidableEq, Inhabited

namespace CollocationPolicy

def all : List CollocationPolicy := [sameCluster, separateClusters]

def name : CollocationPolicy → String
  | sameCluster => "same_cluster"
  | separateClusters => "separate_clusters"

end CollocationPolicy

namespace EndpointKind

def all : List EndpointKind := [rest, web, prometheus, ingestion]

def name : EndpointKind → String
  | rest => "rest"
  | web => "web"
  | prometheus => "prometheus"
  | ingestion => "ingestion"

end EndpointKind

namespace StorageKind

def all : List StorageKind := [ephemeral, clusterLocal, clusterReplica, cloudPersistent]

def name : StorageKind → String
  | ephemeral => "ephemeral"
  | clusterLocal => "cluster_local"
  | clusterReplica => "cluster_replica"
  | cloudPersistent => "cloud_persistent"

end StorageKind

namespace PortAccess

def all : List PortAccess := [allAppServices, appServices, openToAll, deviceGroup]

def name : PortAccess → String
  | allAppServices => "all_app_services"
  | appServices => "app_services"
  | openToAll => "public"
  | deviceGroup => "device_group"

end PortAccess

instance : HasLayout CollocationPolicy :=
  ⟨.choice CollocationPolicy.all CollocationPolicy.name (by intro policy; cases policy <;> rfl)⟩

instance : HasLayout EndpointKind :=
  ⟨.choice EndpointKind.all EndpointKind.name (by intro kind; cases kind <;> rfl)⟩

instance : HasLayout StorageKind :=
  ⟨.choice StorageKind.all StorageKind.name (by intro kind; cases kind <;> rfl)⟩

instance : HasLayout PortAccess :=
  ⟨.choice PortAccess.all PortAccess.name (by intro access; cases access <;> rfl)⟩

/-! ### Services -/

/-- A path published on a port. -/
structure Endpoint where
  kind : EndpointKind
  path : String
  deriving DecidableEq, Inhabited

/-- A port that a service exposes. -/
structure Port where
  name : String
  internalPort : UInt32
  exposedPort : UInt32
  endpoints : List Endpoint
  deriving DecidableEq, Inhabited

/-- A mount that a service asks for. -/
structure Storage where
  sizeBytes : UInt64
  mountPath : String
  kind : StorageKind
  deriving DecidableEq, Inhabited

/-- What a service asks of its host. -/
structure Resources where
  cpuMillis : UInt64
  memoryBytes : UInt64
  deriving DecidableEq, Inhabited

/-- A single workload. -/
structure Service where
  /-- Assigned by the registry. -/
  serviceId : String
  name : String
  image : String
  resources : Resources
  exposedPorts : List Port
  storage : List Storage
  environmentVariables : Labels
  labels : Labels
  runArguments : List String
  /-- Names of services of the same group that must run first. -/
  deployAfter : List String
  deriving DecidableEq, Inhabited

/-- How often a group is deployed. -/
structure Replication where
  replicas : UInt32
  /-- Deploy the group on every cluster of the organization. -/
  multiCluster : Bool
  deriving DecidableEq, Inhabited

/-- Services that are scheduled together. -/
structure ServiceGroup where
  /-- Assigned by the registry. -/
  serviceGroupId : String
  name : String
  policy : CollocationPolicy
  specs : Replication
  services : List Service
  labels : Labels
  deriving DecidableEq, Inhabited

/-- The service of a group with the given id. -/
def ServiceGroup.service? (group : ServiceGroup) (serviceId : String) : Option Service :=
  group.services.find? fun service => service.serviceId = serviceId

/-- No resources asked for. -/
def Resources.none : Resources := { cpuMillis := 0, memoryBytes := 0 }

/-- One copy, on one cluster. -/
def Replication.single : Replication := { replicas := 1, multiCluster := false }

instance : HasLayout Endpoint where
  layout := .record (.required "kind" <| .required "path" .nil)
    (fun e => (e.kind, e.path, ()))
    (fun (kind, path, ()) => { kind, path })
    (fun _ => rfl)

instance : HasLayout Port where
  layout := .record
    (.required "name" <| .required "internal_port" <| .required "exposed_port" <|
      .defaulting "endpoints" [] .nil)
    (fun p => (p.name, p.internalPort, p.exposedPort, p.endpoints, ()))
    (fun (name, internalPort, exposedPort, endpoints, ()) =>
      { name, internalPort, exposedPort, endpoints })
    (fun _ => rfl)

instance : HasLayout Storage where
  layout := .record
    (.required "size_bytes" <| .required "mount_path" <| .defaulting "kind" .ephemeral .nil)
    (fun s => (s.sizeBytes, s.mountPath, s.kind, ()))
    (fun (sizeBytes, mountPath, kind, ()) => { sizeBytes, mountPath, kind })
    (fun _ => rfl)

instance : HasLayout Resources where
  layout := .record (.required "cpu_millis" <| .required "memory_bytes" .nil)
    (fun r => (r.cpuMillis, r.memoryBytes, ()))
    (fun (cpuMillis, memoryBytes, ()) => { cpuMillis, memoryBytes })
    (fun _ => rfl)

instance : HasLayout Service where
  layout := .record
    (.defaulting "service_id" "" <| .required "name" <| .required "image" <|
      .defaulting "resources" .none <| .defaulting "exposed_ports" [] <|
      .defaulting "storage" [] <| .defaulting "environment_variables" .empty <|
      .defaulting "labels" .empty <| .defaulting "run_arguments" [] <|
      .defaulting "deploy_after" [] .nil)
    (fun s => (s.serviceId, s.name, s.image, s.resources, s.exposedPorts, s.storage,
      s.environmentVariables, s.labels, s.runArguments, s.deployAfter, ()))
    (fun (serviceId, name, image, resources, exposedPorts, storage, environmentVariables, labels,
        runArguments, deployAfter, ()) =>
      { serviceId, name, image, resources, exposedPorts, storage, environmentVariables, labels,
        runArguments, deployAfter })
    (fun _ => rfl)

instance : HasLayout Replication where
  layout := .record (.required "replicas" <| .defaulting "multi_cluster_replica" false .nil)
    (fun r => (r.replicas, r.multiCluster, ()))
    (fun (replicas, multiCluster, ()) => { replicas, multiCluster })
    (fun _ => rfl)

instance : HasLayout ServiceGroup where
  layout := .record
    (.defaulting "service_group_id" "" <| .required "name" <| .defaulting "policy" .sameCluster <|
      .defaulting "specs" .single <| .required "services" <| .defaulting "labels" .empty .nil)
    (fun g => (g.serviceGroupId, g.name, g.policy, g.specs, g.services, g.labels, ()))
    (fun (serviceGroupId, name, policy, specs, services, labels, ()) =>
      { serviceGroupId, name, policy, specs, services, labels })
    (fun _ => rfl)

/-! ### Rules -/

/-- Who may reach a port of a service. -/
structure SecurityRule where
  /-- Assigned by the registry. -/
  ruleId : String
  name : String
  targetServiceGroupName : String
  targetServiceName : String
  targetPort : UInt32
  access : PortAccess
  authServiceGroupName : String
  authServices : List String
  deviceGroupNames : List String
  /-- The ids of the named device groups; filled in on a snapshot only. -/
  deviceGroupIds : List String
  deriving DecidableEq, Inhabited

instance : HasLayout SecurityRule where
  layout := .record
    (.defaulting "rule_id" "" <| .required "name" <| .required "target_service_group_name" <|
      .required "target_service_name" <| .required "target_port" <| .required "access" <|
      .defaulting "auth_service_group_name" "" <| .defaulting "auth_services" [] <|
      .defaulting "device_group_names" [] <| .defaulting "device_group_ids" [] .nil)
    (fun r => (r.ruleId, r.name, r.targetServiceGroupName, r.targetServiceName, r.targetPort,
      r.access, r.authServiceGroupName, r.authServices, r.deviceGroupNames, r.deviceGroupIds, ()))
    (fun (ruleId, name, targetServiceGroupName, targetServiceName, targetPort, access,
        authServiceGroupName, authServices, deviceGroupNames, deviceGroupIds, ()) =>
      { ruleId, name, targetServiceGroupName, targetServiceName, targetPort, access,
        authServiceGroupName, authServices, deviceGroupNames, deviceGroupIds })
    (fun _ => rfl)

/-! ### Descriptors and snapshots -/

/-- A template for applications. -/
structure Descriptor where
  organizationId : String
  descriptorId : String
  name : String
  configurationOptions : Labels
  environmentVariables : Labels
  labels : Labels
  rules : List SecurityRule
  groups : List ServiceGroup
  created : Int64
  deriving DecidableEq, Inhabited

/-- The copy of a descriptor that one instance deploys from. -/
structure Snapshot where
  organizationId : String
  descriptorId : String
  instanceId : String
  name : String
  configurationOptions : Labels
  environmentVariables : Labels
  labels : Labels
  rules : List SecurityRule
  groups : List ServiceGroup
  deriving DecidableEq, Inhabited

/-- The group of a descriptor with the given id. -/
def Descriptor.group? (descriptor : Descriptor) (serviceGroupId : String) : Option ServiceGroup :=
  descriptor.groups.find? fun group => group.serviceGroupId = serviceGroupId

/-- The group of a snapshot with the given id. -/
def Snapshot.group? (snapshot : Snapshot) (serviceGroupId : String) : Option ServiceGroup :=
  snapshot.groups.find? fun group => group.serviceGroupId = serviceGroupId

instance : HasLayout Descriptor where
  layout := .record
    (.required "organization_id" <| .required "app_descriptor_id" <| .required "name" <|
      .defaulting "configuration_options" .empty <| .defaulting "environment_variables" .empty <|
      .defaulting "labels" .empty <| .defaulting "rules" [] <| .required "groups" <|
      .defaulting "created" 0 .nil)
    (fun d => (d.organizationId, d.descriptorId, d.name, d.configurationOptions,
      d.environmentVariables, d.labels, d.rules, d.groups, d.created, ()))
    (fun (organizationId, descriptorId, name, configurationOptions, environmentVariables, labels,
        rules, groups, created, ()) =>
      { organizationId, descriptorId, name, configurationOptions, environmentVariables, labels,
        rules, groups, created })
    (fun _ => rfl)

instance : HasLayout Snapshot where
  layout := .record
    (.required "organization_id" <| .required "app_descriptor_id" <|
      .required "app_instance_id" <| .required "name" <|
      .defaulting "configuration_options" .empty <| .defaulting "environment_variables" .empty <|
      .defaulting "labels" .empty <| .defaulting "rules" [] <| .required "groups" .nil)
    (fun s => (s.organizationId, s.descriptorId, s.instanceId, s.name, s.configurationOptions,
      s.environmentVariables, s.labels, s.rules, s.groups, ()))
    (fun (organizationId, descriptorId, instanceId, name, configurationOptions,
        environmentVariables, labels, rules, groups, ()) =>
      { organizationId, descriptorId, instanceId, name, configurationOptions,
        environmentVariables, labels, rules, groups })
    (fun _ => rfl)

end TenantRegistry
