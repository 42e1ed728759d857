/-
TenantRegistry/Proofs/Rows.lean

What operations write into rows.

An operation that registers a row makes it from its request (`Draft`), and one
that edits a row makes it from the row that it fetched (`Edit`).  Both say all
that the operation found before it wrote, and the row that it wrote, field by
field.  They say nothing about whether the write was made.

`ids` and `ids'` are the source of ids before and after.  What was drawn was
drawn between the two, so that both may lie further apart (`Draft.mono`,
`Edit.mono`).
-/
import TenantRegistry.Operation
import TenantRegistry.Proofs.Drawing
import TenantRegistry.Proofs.Looking

namespace TenantRegistry

/-! ### Rows that are registered -/

/-- `Draft ids ids' operation kind row`: the row that an operation registers. -/
inductive Draft (ids ids' : IdSource) : Operation → (kind : ChildKind) → kind.Row → Prop
  | cluster (request : NewCluster) (clusterId : String) (created : Int64) :
      Draft ids ids' (.addCluster request) .cluster
        { clusterId, created
          organizationId := request.organizationId
          name := request.name
          hostname := request.hostname
          controlPlaneHostname := request.controlPlaneHostname
          labels := request.labels
          status := .unknown
          lastAlive := 0
          revision := 0 }
  | node (request : NewNode) (nodeId : String) (created : Int64) :
      Draft ids ids' (.addNode request) .node
        { nodeId, created
          organizationId := request.organizationId
          ip := request.ip
          labels := request.labels
          clusterId := none }
  | user (request : NewUser) (memberSince : Int64) :
      Draft ids ids' (.addUser request) .user
        { memberSince
          organizationId := request.organizationId
          email := request.email
          name := request.name }
  | role (request : NewRole) (roleId : String) (created : Int64) :
      Draft ids ids' (.addRole request) .role
        { roleId, created
          organizationId := request.organizationId
          name := request.name
          description := request.description
          internal := request.internal }
  /-- The ids are drawn in the order in which they are listed here. -/
  | descriptor (request : NewDescriptor) (descriptorId : String) (rules : List SecurityRule)
      (groups : List ServiceGroup) (created : Int64)
      (gave : ids.Gave ids'
        (descriptorId :: (rules.map (·.ruleId) ++ groups.flatMap ServiceGroup.ids))) :
      Draft ids ids' (.addDescriptor request) .descriptor
        { descriptorId, rules, groups, created
          organizationId := request.organizationId
          name := request.name
          configurationOptions := request.configurationOptions
          environmentVariables := request.environmentVariables
          labels := request.labels }

theorem Draft.mono {earlier ids ids' later : IdSource} {operation : Operation} {kind : ChildKind}
    {row : kind.Row} (h : Draft ids ids' operation kind row) (hbefore : earlier.Extends ids)
    (hafter : ids'.Extends later) : Draft earlier later operation kind row := by
  cases h with
  | cluster => exact .cluster _ _ _
  | node => exact .node _ _ _
  | user => exact .user _ _
  | role => exact .role _ _ _
  | descriptor _ _ _ _ _ gave => exact .descriptor _ _ _ _ _ (gave.mono hbefore hafter)

/-! ### Rows that are edited -/

/-- `Edit memory ids ids' operation table before after`: what an operation makes of the row `before`
that it fetched from `memory`. -/
inductive Edit (memory : Memory) (ids ids' : IdSource) :
    Operation → (table : Table) → table.Row → table.Row → Prop
  | organization {edit : OrganizationEdit} {before : Organization}
      (valid : edit.validate = .ok ())
      (present : memory.row? .organizations edit.organizationId = some before) :
      Edit memory ids ids' (.updateOrganization edit) .organizations before (edit.apply before)
  | cluster {edit : ClusterEdit} {before : Cluster}
      (valid : edit.validate = .ok ())
      (fetched : memory.Fetched .cluster edit.organizationId edit.clusterId before) :
      Edit memory ids ids' (.updateCluster edit) .clusters before
        { edit.apply before with revision := before.revision + 1 }
  | cordon {o clusterId : String} {before : Cluster} {status : ClusterStatus}
      (fetched : memory.Fetched .cluster o clusterId before)
      (moved : ClusterAction.cordon.move before.status = .ok status)
      (changed : status ≠ before.status) :
      Edit memory ids ids' (.cordonCluster o clusterId) .clusters before
        { before with status, revision := before.revision + 1 }
  | uncordon {o clusterId : String} {before : Cluster} {status : ClusterStatus}
      (fetched : memory.Fetched .cluster o clusterId before)
      (moved : ClusterAction.uncordon.move before.status = .ok status)
      (changed : status ≠ before.status) :
      Edit memory ids ids' (.uncordonCluster o clusterId) .clusters before
        { before with status, revision := before.revision + 1 }
  | assignment {o nodeId clusterId : String} {before : Node}
      (fetched : memory.Fetched .node o nodeId before)
      (listed : memory.hasChild o .cluster clusterId = true) :
      Edit memory ids ids' (.assignNode o nodeId clusterId) .nodes before
        { before with clusterId := some clusterId }
  | descriptor {edit : DescriptorEdit} {before : Descriptor} {groups : List ServiceGroup}
      (valid : edit.validate = .ok ())
      (fetched : memory.Fetched .descriptor edit.organizationId edit.descriptorId before)
      (renewed : groups = before.groups ∨ ids.Gave ids' (groups.flatMap ServiceGroup.ids)) :
      Edit memory ids ids' (.updateDescriptor edit) .descriptors before (edit.apply groups before)
  | groupInstances {request : NewGroupInstances} {before : Instance} {snapshot : Snapshot}
      {group : ServiceGroup} {given : List String}
      (valid : request.validate = .ok ())
      (listed : memory.hasChild request.organizationId .descriptor request.descriptorId = true)
      (fetched : memory.Fetched .appInstance request.organizationId request.instanceId before)
      (made_from : before.descriptorId = request.descriptorId)
      (copy : memory.row? .snapshots request.instanceId = some snapshot)
      (found : snapshot.group? request.serviceGroupId = some group)
      (gave : ids.Gave ids' given) (count : given.length = request.replicaCount.toNat) :
      Edit memory ids ids' (.addGroupInstances request) .instances before
        { before with
          groups := before.groups ++ given.map (Instances.newGroup group request.replicaCount)
          revision := before.revision + 1 }
  | serviceInstance {request : NewServiceInstance} {descriptor : Descriptor} {before : Instance}
      {group : ServiceGroup} {service : Service} {serviceInstanceId : String}
      (valid : request.validate = .ok ())
      (live : memory.Fetched .descriptor request.organizationId request.descriptorId descriptor)
      (fetched : memory.Fetched .appInstance request.organizationId request.instanceId before)
      (made_from : before.descriptorId = request.descriptorId)
      (found : descriptor.group? request.serviceGroupId = some group)
      (offered : group.service? request.serviceId = some service)
      (there : before.groupOf? request.serviceGroupId request.groupInstanceId ≠ none)
      (gave : ids.Gave ids' [serviceInstanceId]) :
      Edit memory ids ids' (.addServiceInstance request) .instances before
        { before.editGroupOf request.serviceGroupId request.groupInstanceId
            (·.addService (Instances.newService service serviceInstanceId)) with
          revision := before.revision + 1 }
  | report {request : StatusReport} {before : Instance} {group : GroupInstance}
      (valid : request.validate = .ok ())
      (fetched : memory.Fetched .appInstance request.organizationId request.instanceId before)
      (there : before.group? request.groupInstanceId = some group)
      (member : group.service? request.serviceInstanceId ≠ none) :
      Edit memory ids ids' (.reportStatus request) .instances before
        { before.editGroup request.groupInstanceId fun group =>
            (group.editService request.serviceInstanceId request.apply).withDerivedStatus with
          revision := before.revision + 1 }
  | replicas {o instanceId groupInstanceId : String} {available unavailable : UInt32}
      {before : Instance} (fetched : memory.Fetched .appInstance o instanceId before)
      (there : before.group? groupInstanceId ≠ none) :
      Edit memory ids ids' (.setReplicas o instanceId groupInstanceId available unavailable)
        .instances before
        { before.editGroup groupInstanceId fun group =>
            { group with replicas := { group.replicas with available, unavailable } } with
          revision := before.revision + 1 }
  | status {o instanceId : String} {status : ApplicationStatus} {before : Instance}
      (fetched : memory.Fetched .appInstance o instanceId before) :
      Edit memory ids ids' (.setStatus o instanceId status) .instances before
        { before with status, revision := before.revision + 1 }
  | noGroups {o instanceId : String} {before : Instance}
      (fetched : memory.Fetched .appInstance o instanceId before) :
      Edit memory ids ids' (.removeGroupInstances o instanceId) .instances before
        { before with groups := [], revision := before.revision + 1 }

theorem Edit.mono {memory : Memory} {earlier ids ids' later : IdSource} {operation : Operation}
    {table : Table} {before after : table.Row} (h : Edit memory ids ids' operation table before after)
    (hbefore : earlier.Extends ids) (hafter : ids'.Extends later) :
    Edit memory earlier later operation table before after := by
  cases h with
  | organization valid present => exact .organization valid present
  | cluster valid fetched => exact .cluster valid fetched
  | cordon fetched moved changed => exact .cordon fetched moved changed
  | uncordon fetched moved changed => exact .uncordon fetched moved changed
  | assignment fetched listed => exact .assignment fetched listed
  | descriptor valid fetched renewed =>
    exact .descriptor valid fetched (renewed.imp_right fun gave => gave.mono hbefore hafter)
  | groupInstances valid listed fetched made_from copy found gave count =>
    exact .groupInstances valid listed fetched made_from copy found (gave.mono hbefore hafter)
      count
  | serviceInstance valid live fetched made_from found offered there gave =>
    exact .serviceInstance valid live fetched made_from found offered there
      (gave.mono hbefore hafter)
  | report valid fetched there member => exact .report valid fetched there member
  | replicas fetched there => exact .replicas fetched there
  | status fetched => exact .status fetched
  | noGroups fetched => exact .noGroups fetched

end TenantRegistry
