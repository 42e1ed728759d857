/-
TenantRegistry/Member.lean

Nodes, users and roles of an organization.
-/
import TenantRegistry.Json.Layout

namespace TenantRegistry

/-- A machine, assigned to at most one cluster. -/
structure Node where
  organizationId : String
  nodeId : String
  ip : String
  labels : Labels
  /-- The cluster the node is assigned to. -/
  clusterId : Option String
  created : Int64
  deriving DecidableEq, Inhabited

/-- A person, known by an email address. -/
structure User where
  organizationId : String
  email : String
  name : String
  memberSince : Int64
  deriving DecidableEq, Inhabited

/-- A named role. -/
structure Role where
  organizationId : String
  roleId : String
  name : String
  description : String
  /-- Made by the platform rather than by the tenant. -/
  internal : Bool
  created : Int64
  deriving DecidableEq, Inhabited

instance : HasLayout Node where
  layout := .record
    (.required "organization_id" <| .required "node_id" <| .required "ip" <|
      .defaulting "labels" .empty <| .trailingOption "cluster_id" <| .required "created" .nil)
    (fun n => (n.organizationId, n.nodeId, n.ip, n.labels, n.clusterId, n.created, ()))
    (fun (organizationId, nodeId, ip, labels, clusterId, created, ()) =>
      { organizationId, nodeId, ip, labels, clusterId, created })
    (fun _ => rfl)

instance : HasLayout User where
  layout := .record
    (.required "organization_id" <| .required "email" <| .required "name" <|
      .required "member_since" .nil)
    (fun u => (u.organizationId, u.email, u.name, u.memberSince, ()))
    (fun (organizationId, email, name, memberSince, ()) =>
      { organizationId, email, name, memberSince })
    (fun _ => rfl)

instance : HasLayout Role where
  layout := .record
    (.required "organization_id" <| .required "role_id" <| .required "name" <|
      .defaulting "description" "" <| .defaulting "internal" false <| .required "created" .nil)
    (fun r => (r.organizationId, r.roleId, r.name, r.description, r.internal, r.created, ()))
    (fun (organizationId, roleId, name, description, internal, created, ()) =>
      { organizationId, roleId, name, description, internal, created })
    (fun _ => rfl)

end TenantRegistry
