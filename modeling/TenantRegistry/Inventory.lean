/-
TenantRegistry/Inventory.lean

Records that are kept as they are given: device groups, devices and assets of
an organization, accounts, and the projects of an account.  Rules of a
descriptor name device groups; nothing refers to the others.
-/
import TenantRegistry.Json.Layout

namespace TenantRegistry

/-- A named group of devices. -/
structure DeviceGroup where
  organizationId : String
  deviceGroupId : String
  name : String
  enabled : Bool
  created : Int64
  deriving DecidableEq, Inhabited

/-- A device of a group. -/
structure Device where
  organizationId : String
  deviceGroupId : String
  deviceId : String
  labels : Labels
  registerSince : Int64
  deriving DecidableEq, Inhabited

/-- A machine under an agent. -/
structure Asset where
  organizationId : String
  assetId : String
  agentId : String
  labels : Labels
  created : Int64
  deriving DecidableEq, Inhabited

/-- An account. -/
structure Account where
  accountId : String
  name : String
  created : Int64
  deriving DecidableEq, Inhabited

/-- A project of an account. -/
structure Project where
  ownerAccountId : String
  projectId : String
  name : String
  created : Int64
  deriving DecidableEq, Inhabited

instance : HasLayout DeviceGroup where
  layout := .record
    (.required "organization_id" <| .required "device_group_id" <| .required "name" <|
      .defaulting "enabled" false <| .required "created" .nil)
    (fun g => (g.organizationId, g.deviceGroupId, g.name, g.enabled, g.created, ()))
    (fun (organizationId, deviceGroupId, name, enabled, created, ()) =>
      { organizationId, deviceGroupId, name, enabled, created })
    (fun _ => rfl)

instance : HasLayout Device where
  layout := .record
    (.required "organization_id" <| .required "device_group_id" <| .required "device_id" <|
      .defaulting "labels" .empty <| .required "register_since" .nil)
    (fun d => (d.organizationId, d.deviceGroupId, d.deviceId, d.labels, d.registerSince, ()))
    (fun (organizationId, deviceGroupId, deviceId, labels, registerSince, ()) =>
      { organizationId, deviceGroupId, deviceId, labels, registerSince })
    (fun _ => rfl)

instance : HasLayout Asset where
  layout := .record
    (.required "organization_id" <| .required "asset_id" <| .required "agent_id" <|
      .defaulting "labels" .empty <| .required "created" .nil)
    (fun a => (a.organizationId, a.assetId, a.agentId, a.labels, a.created, ()))
    (fun (organizationId, assetId, agentId, labels, created, ()) =>
      { organizationId, assetId, agentId, labels, created })
    (fun _ => rfl)

instance : HasLayout Account where
  layout := .record (.required "account_id" <| .required "name" <| .required "created" .nil)
    (fun a => (a.accountId, a.name, a.created, ()))
    (fun (accountId, name, created, ()) => { accountId, name, created })
    (fun _ => rfl)

instance : HasLayout Project where
  layout := .record
    (.required "owner_account_id" <| .required "project_id" <| .required "name" <|
      .required "created" .nil)
    (fun p => (p.ownerAccountId, p.projectId, p.name, p.created, ()))
    (fun (ownerAccountId, projectId, name, created, ()) =>
      { ownerAccountId, projectId, name, created })
    (fun _ => rfl)

end TenantRegistry
