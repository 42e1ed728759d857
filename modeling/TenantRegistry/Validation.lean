/-
TenantRegistry/Validation.lean

The rules that a request has to keep.

Each request has a `validate`, which looks at nothing but the request and
reports the first rule it breaks, in the order in which its parts are given
here.  An operation validates its request before it touches storage.

* An identifier is not empty and free of `/`, which separates the parts of
  index keys.
* A required text is not blank.
* A port is one of 1 to 65535.
-/
import TenantRegistry.Error
import TenantRegistry.Request
import TenantRegistry.Text.Blank

namespace TenantRegistry

/-! ### Rules -/

/-- A rule: the violation if the condition does not hold. -/
def ensure (condition : Prop) [Decidable condition] (otherwise : Violation) :
    Except Violation Unit :=
  if condition then .ok () else .error otherwise

/-- A rule for each element, in order. -/
def ensureEach {α : Type} (rule : α → Except Violation Unit) : List α → Except Violation Unit
  | [] => .ok ()
  | x :: xs => do
    rule x
    ensureEach rule xs

/-- A rule for a value, if there is one. -/
def ensureGiven {α : Type} (rule : α → Except Violation Unit) : Option α → Except Violation Unit
  | none => .ok ()
  | some x => rule x

/-- An identifier is not empty and has no `/` in it. -/
def ensureIdentifier (field value : String) : Except Violation Unit := do
  ensure (value ≠ "") (.unset field)
  ensure ('/' ∉ value.toList) (.separator field value)

/-- A required text is not blank. -/
def ensureText (field value : String) : Except Violation Unit :=
  ensure (isBlank value = false) (.unset field)

/-- A port is one of 1 to 65535. -/
def ensurePort (field : String) (port : UInt32) : Except Violation Unit :=
  ensure (1 ≤ port.toNat ∧ port.toNat ≤ 65535) (.portRange field port)

/-! ### Service groups -/

/-- Both numbers of an exposed port are ports. -/
def Port.validate (port : Port) : Except Violation Unit := do
  ensurePort "internal port" port.internalPort
  ensurePort "exposed port" port.exposedPort

/-- Services have names and images, and no two of a group share a name. -/
def validateServices (groupName : String) (seen : List String) :
    List Service → Except Violation Unit
  | [] => .ok ()
  | service :: rest => do
    ensureText "service name" service.name
    ensureText "service image" service.image
    ensure (service.name ∉ seen) (.repeatedService service.name groupName)
    ensureEach Port.validate service.exposedPorts
    validateServices groupName (service.name :: seen) rest

/-- Groups have names and services, and no two share a name. -/
def validateGroups (seen : List String) : List ServiceGroup → Except Violation Unit
  | [] => .ok ()
  | group :: rest => do
    ensureText "service group name" group.name
    ensure (group.name ∉ seen) (.repeatedGroup group.name)
    ensure (group.services ≠ []) (.emptyGroup group.name)
    validateServices group.name [] group.services
    validateGroups (group.name :: seen) rest

/-- A descriptor has at least one group, and its groups are in order. -/
def validateServiceGroups (groups : List ServiceGroup) : Except Violation Unit := do
  ensure (groups ≠ []) .noGroups
  validateGroups [] groups

/-- A rule has a name and a target port. -/
def SecurityRule.validate (rule : SecurityRule) : Except Violation Unit := do
  ensureText "rule name" rule.name
  ensurePort "rule target port" rule.targetPort

/-- An endpoint has a name and a port. -/
def EndpointInstance.validate (endpoint : EndpointInstance) : Except Violation Unit := do
  ensureText "endpoint fqdn" endpoint.fqdn
  ensurePort "endpoint port" endpoint.port

/-! ### Requests -/

def NewOrganization.validate (request : NewOrganization) : Except Violation Unit :=
  ensureText "name" request.name

def OrganizationEdit.validate (request : OrganizationEdit) : Except Violation Unit := do
  ensureIdentifier "organization_id" request.organizationId
  ensureGiven (ensureText "name") request.name

def NewCluster.validate (request : NewCluster) : Except Violation Unit := do
  ensureIdentifier "organization_id" request.organizationId
  ensureText "name" request.name
  ensureText "hostname" request.hostname

def ClusterEdit.validate (request : ClusterEdit) : Except Violation Unit := do
  ensureIdentifier "organization_id" request.organizationId
  ensureIdentifier "cluster_id" request.clusterId
  ensureGiven (ensureText "name") request.name
  ensureGiven (ensureText "hostname") request.hostname

def NewNode.validate (request : NewNode) : Except Violation Unit := do
  ensureIdentifier "organization_id" request.organizationId
  ensureText "ip" request.ip

def NewUser.validate (request : NewUser) : Except Violation Unit := do
  ensureIdentifier "organization_id" request.organizationId
  ensureIdentifier "email" request.email
  ensure ('@' ∈ request.email.toList) (.notAnAddress request.email)
  ensureText "name" request.name

def NewRole.validate (request : NewRole) : Except Violation Unit := do
  ensureIdentifier "organization_id" request.organizationId
  ensureText "name" request.name

def NewDescriptor.validate (request : NewDescriptor) : Except Violation Unit := do
  ensureIdentifier "organization_id" request.organizationId
  ensureText "name" request.name
  validateServiceGroups request.groups
  ensureEach SecurityRule.validate request.rules

def DescriptorEdit.validate (request : DescriptorEdit) : Except Violation Unit := do
  ensureIdentifier "organization_id" request.organizationId
  ensureIdentifier "app_descriptor_id" request.descriptorId
  ensureGiven (ensureText "name") request.name
  ensureGiven validateServiceGroups request.groups

def NewInstance.validate (request : NewInstance) : Except Violation Unit := do
  ensureIdentifier "organization_id" request.organizationId
  ensureIdentifier "app_descriptor_id" request.descriptorId
  ensureText "name" request.name
  ensureGiven (ensureEach fun parameter => ensureText "parameter name" parameter.name)
    request.parameters

def NewGroupInstances.validate (request : NewGroupInstances) : Except Violation Unit := do
  ensureIdentifier "organization_id" request.organizationId
  ensureIdentifier "app_descriptor_id" request.descriptorId
  ensureIdentifier "app_instance_id" request.instanceId
  ensureIdentifier "service_group_id" request.serviceGroupId
  ensure (1 ≤ request.replicaCount) .noReplicas
  ensure (request.replicaCount ≤ maxReplicas) (.tooManyReplicas request.replicaCount)

def NewServiceInstance.validate (request : NewServiceInstance) : Except Violation Unit := do
  ensureIdentifier "organization_id" request.organizationId
  ensureIdentifier "app_descriptor_id" request.descriptorId
  ensureIdentifier "app_instance_id" request.instanceId
  ensureIdentifier "service_group_id" request.serviceGroupId
  ensureIdentifier "service_group_instance_id" request.groupInstanceId
  ensureIdentifier "service_id" request.serviceId

def StatusReport.validate (request : StatusReport) : Except Violation Unit := do
  ensureIdentifier "organization_id" request.organizationId
  ensureIdentifier "app_instance_id" request.instanceId
  ensureIdentifier "service_group_instance_id" request.groupInstanceId
  ensureIdentifier "service_instance_id" request.serviceInstanceId
  ensureEach EndpointInstance.validate request.endpoints

end TenantRegistry
