/-
TenantRegistry/Registry/Members.lean

Operations on the nodes, users and roles of an organization.  They are
fetched, listed and removed like all that an organization owns.
-/
import TenantRegistry.Ownership
import TenantRegistry.Validation

namespace TenantRegistry

open Procedure

namespace Nodes

/-- Add a node.  It is assigned to no cluster. -/
def add (request : NewNode) : Procedure Node := do
  validate request.validate
  requireOrganization request.organizationId
  let nodeId ← freshId
  let created ← now
  let node : Node :=
    { nodeId, created
      organizationId := request.organizationId
      ip := request.ip
      labels := request.labels
      clusterId := none }
  ChildKind.node.add node.organizationId node
  return node

/-- Assign a node to a cluster of its organization. -/
def assign (organizationId nodeId clusterId : String) : Procedure Node := do
  validate (ensureIdentifier "cluster_id" clusterId)
  let node : Node ← ChildKind.node.get organizationId nodeId
  ChildKind.cluster.require organizationId clusterId
  let assigned : Node := { node with clusterId := some clusterId }
  perform (.update .nodes assigned)
  return assigned

end Nodes

namespace Users

/-- Add a user, known by an email address. -/
def add (request : NewUser) : Procedure User := do
  validate request.validate
  requireOrganization request.organizationId
  let memberSince ← now
  let user : User :=
    { memberSince
      organizationId := request.organizationId
      email := request.email
      name := request.name }
  ChildKind.user.add user.organizationId user
  return user

end Users

namespace Roles

/-- Add a role. -/
def add (request : NewRole) : Procedure Role := do
  validate request.validate
  requireOrganization request.organizationId
  let roleId ← freshId
  let created ← now
  let role : Role :=
    { roleId, created
      organizationId := request.organizationId
      name := request.name
      description := request.description
      internal := request.internal }
  ChildKind.role.add role.organizationId role
  return role

end Roles

end TenantRegistry
