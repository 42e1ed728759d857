/-
TenantRegistry/Request.lean

What a caller asks the registry for.

A request carries what the caller may choose.  Ids and times are never among
it: the registry assigns them.  In an edit, a field without a value is a field
to keep.
-/
import TenantRegistry.Cluster
import TenantRegistry.Instance

namespace TenantRegistry

/-! ### Organizations -/

/-- Create an organization. -/
structure NewOrganization where
  name : String
  fullAddress : String
  city : String
  state : String
  country : String
  zipCode : String
  deriving DecidableEq, Inhabited

/-- Edit an organization. -/
structure OrganizationEdit where
  organizationId : String
  name : Option String
  fullAddress : Option String
  city : Option String
  state : Option String
  country : Option String
  zipCode : Option String
  deriving DecidableEq, Inhabited

instance : HasLayout NewOrganization where
  layout := .record
    (.required "name" <| .defaulting "full_address" "" <| .defaulting "city" "" <|
      .defaulting "state" "" <| .defaulting "country" "" <| .defaulting "zip_code" "" .nil)
    (fun r => (r.name, r.fullAddress, r.city, r.state, r.country, r.zipCode, ()))
    (fun (name, fullAddress, city, state, country, zipCode, ()) =>
      { name, fullAddress, city, state, country, zipCode })
    (fun _ => rfl)

instance : HasLayout OrganizationEdit where
  layout := .record
    (.required "organization_id" <| .option "name" <| .option "full_address" <| .option "city" <|
      .option "state" <| .option "country" <| .option "zip_code" .nil)
    (fun r => (r.organizationId, r.name, r.fullAddress, r.city, r.state, r.country, r.zipCode, ()))
    (fun (organizationId, name, fullAddress, city, state, country, zipCode, ()) =>
      { organizationId, name, fullAddress, city, state, country, zipCode })
    (fun _ => rfl)

/-! ### Clusters -/

/-- Register a cluster. -/
structure NewCluster where
  organizationId : String
  name : String
  hostname : String
  controlPlaneHostname : String
  labels : Labels
  deriving DecidableEq, Inhabited

/-- Edit a cluster, or report its health. -/
structure ClusterEdit where
  organizationId : String
  clusterId : String
  name : Option String
  hostname : Option String
  controlPlaneHostname : Option String
  labels : Option Labels
  /-- A report; it leaves the cordon half of the status alone. -/
  health : Option ClusterHealth
  lastAlive : Option Int64
  deriving DecidableEq, Inhabited

instance : HasLayout NewCluster where
  layout := .record
    (.required "organization_id" <| .required "name" <| .required "hostname" <|
      .defaulting "control_plane_hostname" "" <| .defaulting "labels" .empty .nil)
    (fun r => (r.organizationId, r.name, r.hostname, r.controlPlaneHostname, r.labels, ()))
    (fun (organizationId, name, hostname, controlPlaneHostname, labels, ()) =>
      { organizationId, name, hostname, controlPlaneHostname, labels })
    (fun _ => rfl)

instance : HasLayout ClusterEdit where
  layout := .record
    (.required "organization_id" <| .required "cluster_id" <| .option "name" <|
      .option "hostname" <| .option "control_plane_hostname" <| .option "labels" <|
      .option "health" <| .option "last_alive_timestamp" .nil)
    (fun r => (r.organizationId, r.clusterId, r.name, r.hostname, r.controlPlaneHostname,
      r.labels, r.health, r.lastAlive, ()))
    (fun (organizationId, clusterId, name, hostname, controlPlaneHostname, labels, health,
        lastAlive, ()) =>
      { organizationId, clusterId, name, hostname, controlPlaneHostname, labels, health,
        lastAlive })
    (fun _ => rfl)

/-! ### Nodes, users and roles -/

/-- Add a node. -/
structure NewNode where
  organizationId : String
  ip : String
  labels : Labels
  deriving DecidableEq, Inhabited

/-- Add a user. -/
structure NewUser where
  organizationId : String
  email : String
  name : String
  deriving DecidableEq, Inhabited

/-- Add a role. -/
structure NewRole where
  organizationId : String
  name : String
  description : String
  internal : Bool
  deriving DecidableEq, Inhabited

instance : HasLayout NewNode where
  layout := .record
    (.required "organization_id" <| .required "ip" <| .defaulting "labels" .empty .nil)
    (fun r => (r.organizationId, r.ip, r.labels, ()))
    (fun (organizationId, ip, labels, ()) => { organizationId, ip, labels })
    (fun _ => rfl)

instance : HasLayout NewUser where
  layout := .record (.required "organization_id" <| .required "email" <| .required "name" .nil)
    (fun r => (r.organizationId, r.email, r.name, ()))
    (fun (organizationId, email, name, ()) => { organizationId, email, name })
    (fun _ => rfl)

instance : HasLayout NewRole where
  layout := .record
    (.required "organization_id" <| .required "name" <| .defaulting "description" "" <|
      .defaulting "internal" false .nil)
    (fun r => (r.organizationId, r.name, r.description, r.internal, ()))
    (fun (organizationId, name, description, internal, ()) =>
      { organizationId, name, description, internal })
    (fun _ => rfl)

/-! ### Descriptors -/

/-- Add a descriptor.  Ids of its groups, services and rules are replaced. -/
structure NewDescriptor where
  organizationId : String
  name : String
  configurationOptions : Labels
  environmentVariables : Labels
  labels : Labels
  rules : List SecurityRule
  groups : List ServiceGroup
  deriving DecidableEq, Inhabited

/-- Edit a descriptor.  Groups given here replace all its groups. -/
structure DescriptorEdit where
  organizationId : String
  descriptorId : String
  name : Option String
  labels : Option Labels
  groups : Option (List ServiceGroup)
  deriving DecidableEq, Inhabited

instance : HasLayout NewDescriptor where
  layout := .record
    (.required "organization_id" <| .required "name" <|
      .defaulting "configuration_options" .empty <| .defaulting "environment_variables" .empty <|
      .defaulting "labels" .empty <| .defaulting "rules" [] <| .required "groups" .nil)
    (fun r => (r.organizationId, r.name, r.configurationOptions, r.environmentVariables, r.labels,
      r.rules, r.groups, ()))
    (fun (organizationId, name, configurationOptions, environmentVariables, labels, rules, groups,
        ()) =>
      { organizationId, name, configurationOptions, environmentVariables, labels, rules, groups })
    (fun _ => rfl)

instance : HasLayout DescriptorEdit where
  layout := .record
    (.required "organization_id" <| .required "app_descriptor_id" <| .option "name" <|
      .option "labels" <| .option "groups" .nil)
    (fun r => (r.organizationId, r.descriptorId, r.name, r.labels, r.groups, ()))
    (fun (organizationId, descriptorId, name, labels, groups, ()) =>
      { organizationId, descriptorId, name, labels, groups })
    (fun _ => rfl)

/-! ### Instances -/

/-- Make an instance of a descriptor. -/
structure NewInstance where
  organizationId : String
  descriptorId : String
  name : String
  labels : Labels
  parameters : Option (List Parameter)
  deriving DecidableEq, Inhabited

/-- Add instances of one service group to an instance. -/
structure NewGroupInstances where
  organizationId : String
  descriptorId : String
  instanceId : String
  serviceGroupId : String
  replicaCount : UInt32
  deriving DecidableEq, Inhabited

/-- Add an instance of a service to a group instance. -/
structure NewServiceInstance where
  organizationId : String
  descriptorId : String
  instanceId : String
  serviceGroupId : String
  groupInstanceId : String
  serviceId : String
  deriving DecidableEq, Inhabited

/-- Report how far the deployment of a service instance is. -/
structure StatusReport where
  organizationId : String
  instanceId : String
  groupInstanceId : String
  serviceInstanceId : String
  status : ServiceStatus
  endpoints : List EndpointInstance
  deployedOn : Option String
  deriving DecidableEq, Inhabited

instance : HasLayout NewInstance where
  layout := .record
    (.required "organization_id" <| .required "app_descriptor_id" <| .required "name" <|
      .defaulting "labels" .empty <| .trailingOption "parameters" .nil)
    (fun r => (r.organizationId, r.descriptorId, r.name, r.labels, r.parameters, ()))
    (fun (organizationId, descriptorId, name, labels, parameters, ()) =>
      { organizationId, descriptorId, name, labels, parameters })
    (fun _ => rfl)

instance : HasLayout NewGroupInstances where
  layout := .record
    (.required "organization_id" <| .required "app_descriptor_id" <|
      .required "app_instance_id" <| .required "service_group_id" <|
      .required "replica_count" .nil)
    (fun r => (r.organizationId, r.descriptorId, r.instanceId, r.serviceGroupId, r.replicaCount,
      ()))
    (fun (organizationId, descriptorId, instanceId, serviceGroupId, replicaCount, ()) =>
      { organizationId, descriptorId, instanceId, serviceGroupId, replicaCount })
    (fun _ => rfl)

instance : HasLayout NewServiceInstance where
  layout := .record
    (.required "organization_id" <| .required "app_descriptor_id" <|
      .required "app_instance_id" <| .required "service_group_id" <|
      .required "service_group_instance_id" <| .required "service_id" .nil)
    (fun r => (r.organizationId, r.descriptorId, r.instanceId, r.serviceGroupId,
      r.groupInstanceId, r.serviceId, ()))
    (fun (organizationId, descriptorId, instanceId, serviceGroupId, groupInstanceId, serviceId,
        ()) =>
      { organizationId, descriptorId, instanceId, serviceGroupId, groupInstanceId, serviceId })
    (fun _ => rfl)

instance : HasLayout StatusReport where
  layout := .record
    (.required "organization_id" <| .required "app_instance_id" <|
      .required "service_group_instance_id" <| .required "service_instance_id" <|
      .required "status" <| .defaulting "endpoints" [] <|
      .trailingOption "deployed_on_cluster_id" .nil)
    (fun r => (r.organizationId, r.instanceId, r.groupInstanceId, r.serviceInstanceId, r.status,
      r.endpoints, r.deployedOn, ()))
    (fun (organizationId, instanceId, groupInstanceId, serviceInstanceId, status, endpoints,
        deployedOn, ()) =>
      { organizationId, instanceId, groupInstanceId, serviceInstanceId, status, endpoints,
        deployedOn })
    (fun _ => rfl)

end TenantRegistry
