/-
TenantRegistry/Registry/Descriptors.lean

Operations on application descriptors.

Ids in a request are replaced: every rule, group and service gets a fresh one
when it is written, in the order rules, then groups, and each group before its
services.  A descriptor that an instance was made from cannot be removed.
-/
import TenantRegistry.Ownership
import TenantRegistry.Validation

namespace TenantRegistry

open Procedure

/-! ### Fresh ids -/

/-- A service under a fresh id. -/
def Service.renewed (service : Service) : Procedure Service := do
  let serviceId ← freshId
  return { service with serviceId }

/-- A group and its services under fresh ids. -/
def ServiceGroup.renewed (group : ServiceGroup) : Procedure ServiceGroup := do
  let serviceGroupId ← freshId
  let services ← group.services.mapM Service.renewed
  return { group with serviceGroupId, services }

/-- A rule under a fresh id, with no device groups filled in. -/
def SecurityRule.renewed (rule : SecurityRule) : Procedure SecurityRule := do
  let ruleId ← freshId
  return { rule with ruleId, deviceGroupIds := [] }

/-! ### Operations -/

/-- A descriptor with an edit made, and with the given groups. -/
def DescriptorEdit.apply (edit : DescriptorEdit) (groups : List ServiceGroup)
    (descriptor : Descriptor) : Descriptor :=
  { descriptor with
    name := edit.name.getD descriptor.name
    labels := edit.labels.getD descriptor.labels
    groups }

namespace Descriptors

/-- Add a descriptor.  If it cannot be entered into the index it stays stored,
and nothing lists it. -/
def add (request : NewDescriptor) : Procedure Descriptor := do
  validate request.validate
  requireOrganization request.organizationId
  let descriptorId ← freshId
  let rules ← request.rules.mapM SecurityRule.renewed
  let groups ← request.groups.mapM ServiceGroup.renewed
  let created ← now
  let descriptor : Descriptor :=
    { descriptorId, rules, groups, created
      organizationId := request.organizationId
      name := request.name
      configurationOptions := request.configurationOptions
      environmentVariables := request.environmentVariables
      labels := request.labels }
  perform (.add .descriptors descriptor)
  -- no undo: a failure here leaves the descriptor stored
  perform (.addChild descriptor.organizationId .descriptor descriptorId)
  return descriptor

/-- Fetch a descriptor. -/
def get (organizationId descriptorId : String) : Procedure Descriptor :=
  ChildKind.descriptor.get organizationId descriptorId

/-- Edit a descriptor.  Instances that exist keep their snapshots. -/
def update (edit : DescriptorEdit) : Procedure Descriptor := do
  validate edit.validate
  let descriptor ← get edit.organizationId edit.descriptorId
  let groups ← edit.groups.elim (pure descriptor.groups) (·.mapM ServiceGroup.renewed)
  let edited := edit.apply groups descriptor
  perform (.update .descriptors edited)
  return edited

/-- Remove a descriptor that no instance was made from. -/
def remove (organizationId descriptorId : String) : Procedure Unit := do
  validate (ensureIdentifier "organization_id" organizationId)
  validate (ensureIdentifier "app_descriptor_id" descriptorId)
  ChildKind.descriptor.require organizationId descriptorId
  let instances : List Instance ← listByOwner .instances organizationId
  let users := instances.countP fun app => app.descriptorId = descriptorId
  if users > 0 then throw (.failedPrecondition (.descriptorInUse descriptorId users))
  else ChildKind.descriptor.remove organizationId descriptorId

end Descriptors

end TenantRegistry
