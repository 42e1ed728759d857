/-
TenantRegistry/Operation.lean

The operations of the registry, as data.

An `Operation` is one thing that a caller can have done, with all that it
needs to be told.  `Operation.procedure` says what it does to storage,
`Operation.Answer` what it answers, and `Operation.encodeAnswer` how the
answer stands in JSON.
-/
import TenantRegistry.Registry.Clusters
import TenantRegistry.Registry.Descriptors
import TenantRegistry.Registry.Instances
import TenantRegistry.Registry.Members
import TenantRegistry.Registry.Organizations

namespace TenantRegistry

/-- One thing to do. -/
inductive Operation where
  | addOrganization (request : NewOrganization)
  | getOrganization (organizationId : String)
  | listOrganizations
  | updateOrganization (edit : OrganizationEdit)
  /-- Fetch something that an organization owns. -/
  | get (kind : ChildKind) (organizationId childId : String)
  /-- Fetch all things of a kind that an organization owns. -/
  | list (kind : ChildKind) (organizationId : String)
  /-- Remove something that an organization owns. -/
  | remove (kind : ChildKind) (organizationId childId : String)
  | addCluster (request : NewCluster)
  | updateCluster (edit : ClusterEdit)
  | cordonCluster (organizationId clusterId : String)
  | uncordonCluster (organizationId clusterId : String)
  | addNode (request : NewNode)
  | assignNode (organizationId nodeId clusterId : String)
  | addUser (request : NewUser)
  | addRole (request : NewRole)
  | addDescriptor (request : NewDescriptor)
  | updateDescriptor (edit : DescriptorEdit)
  | addInstance (request : NewInstance)
  | getSnapshot (organizationId instanceId : String)
  | getParameters (organizationId instanceId : String)
  | addGroupInstances (request : NewGroupInstances)
  | addServiceInstance (request : NewServiceInstance)
  | reportStatus (report : StatusReport)
  | setReplicas (organizationId instanceId groupInstanceId : String)
      (available unavailable : UInt32)
  | setStatus (organizationId instanceId : String) (status : ApplicationStatus)
  | removeGroupInstances (organizationId instanceId : String)

namespace Operation

/-- What an operation answers when it succeeds. -/
@[reducible] def Answer : Operation → Type
  | addOrganization _ => Organization
  | getOrganization _ => Organization
  | listOrganizations => List Organization
  | updateOrganization _ => Organization
  | get kind _ _ => kind.Row
  | list kind _ => List kind.Row
  | remove _ _ _ => Unit
  | addCluster _ => Cluster
  | updateCluster _ => Cluster
  | cordonCluster _ _ => Cluster
  | uncordonCluster _ _ => Cluster
  | addNode _ => Node
  | assignNode _ _ _ => Node
  | addUser _ => User
  | addRole _ => Role
  | addDescriptor _ => Descriptor
  | updateDescriptor _ => Descriptor
  | addInstance _ => Instance
  | getSnapshot _ _ => Snapshot
  | getParameters _ _ => InstanceParameters
  | addGroupInstances _ => List GroupInstance
  | addServiceInstance _ => ServiceInstance
  | reportStatus _ => Instance
  | setReplicas _ _ _ _ _ => GroupInstance
  | setStatus _ _ _ => Instance
  | removeGroupInstances _ _ => Instance

/-- What an operation does. -/
def procedure : (operation : Operation) → Procedure operation.Answer
  | addOrganization request => Organizations.add request
  | getOrganization organizationId => Organizations.get organizationId
  | listOrganizations => Organizations.list
  | updateOrganization edit => Organizations.update edit
  | get kind organizationId childId => kind.get organizationId childId
  | list kind organizationId => kind.list organizationId
  | remove .cluster organizationId clusterId => Clusters.remove organizationId clusterId
  | remove .descriptor organizationId descriptorId =>
    Descriptors.remove organizationId descriptorId
  | remove .appInstance organizationId instanceId => Instances.remove organizationId instanceId
  | remove kind organizationId childId => kind.remove organizationId childId
  | addCluster request => Clusters.add request
  | updateCluster edit => Clusters.update edit
  | cordonCluster organizationId clusterId => Clusters.cordon organizationId clusterId
  | uncordonCluster organizationId clusterId => Clusters.uncordon organizationId clusterId
  | addNode request => Nodes.add request
  | assignNode organizationId nodeId clusterId => Nodes.assign organizationId nodeId clusterId
  | addUser request => Users.add request
  | addRole request => Roles.add request
  | addDescriptor request => Descriptors.add request
  | updateDescriptor edit => Descriptors.update edit
  | addInstance request => Instances.add request
  | getSnapshot organizationId instanceId => Instances.snapshot organizationId instanceId
  | getParameters organizationId instanceId => Instances.parameters organizationId instanceId
  | addGroupInstances request => Instances.addGroups request
  | addServiceInstance request => Instances.addService request
  | reportStatus report => Instances.report report
  | setReplicas organizationId instanceId groupInstanceId available unavailable =>
    Instances.setReplicas organizationId instanceId groupInstanceId available unavailable
  | setStatus organizationId instanceId status =>
    Instances.setStatus organizationId instanceId status
  | removeGroupInstances organizationId instanceId =>
    Instances.removeGroups organizationId instanceId

/-- An answer as JSON. -/
def encodeAnswer : (operation : Operation) → operation.Answer → Json
  | addOrganization _, answer => encode answer
  | getOrganization _, answer => encode answer
  | listOrganizations, answer => encode answer
  | updateOrganization _, answer => encode answer
  | get kind _ _, answer => kind.table.rowLayout.encode answer
  | list kind _, answer => (Layout.list kind.table.rowLayout).encode answer
  | remove _ _ _, () => .null
  | addCluster _, answer => encode answer
  | updateCluster _, answer => encode answer
  | cordonCluster _ _, answer => encode answer
  | uncordonCluster _ _, answer => encode answer
  | addNode _, answer => encode answer
  | assignNode _ _ _, answer => encode answer
  | addUser _, answer => encode answer
  | addRole _, answer => encode answer
  | addDescriptor _, answer => encode answer
  | updateDescriptor _, answer => encode answer
  | addInstance _, answer => encode answer
  | getSnapshot _ _, answer => encode answer
  | getParameters _ _, answer => encode answer
  | addGroupInstances _, answer => encode answer
  | addServiceInstance _, answer => encode answer
  | reportStatus _, answer => encode answer
  | setReplicas _ _ _ _ _, answer => encode answer
  | setStatus _ _ _, answer => encode answer
  | removeGroupInstances _ _, answer => encode answer

end Operation

end TenantRegistry
