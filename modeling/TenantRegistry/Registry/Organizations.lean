/-
TenantRegistry/Registry/Organizations.lean

Operations on organizations.  No two organizations share a name, and an
organization may always be given the name it has.
-/
import TenantRegistry.Ownership
import TenantRegistry.Validation

namespace TenantRegistry

open Procedure

/-- An organization with an edit made. -/
def OrganizationEdit.apply (edit : OrganizationEdit) (organization : Organization) :
    Organization :=
  { organization with
    name := edit.name.getD organization.name
    fullAddress := edit.fullAddress.getD organization.fullAddress
    city := edit.city.getD organization.city
    state := edit.state.getD organization.state
    country := edit.country.getD organization.country
    zipCode := edit.zipCode.getD organization.zipCode }

namespace Organizations

/-- Fail if an organization has a name, the excepted one aside. -/
def requireFreeName (name : String) (excepted : Option String) : Procedure Unit := do
  let organizations : List Organization ← perform (.list .organizations)
  if organizations.any fun other => other.name = name ∧ some other.organizationId ≠ excepted then
    throw (.alreadyExists (.organizationNamed name))
  else return ()

/-- Create an organization. -/
def add (request : NewOrganization) : Procedure Organization := do
  validate request.validate
  requireFreeName request.name none
  let organizationId ← freshId
  let created ← now
  let organization : Organization :=
    { organizationId, created
      name := request.name
      fullAddress := request.fullAddress
      city := request.city
      state := request.state
      country := request.country
      zipCode := request.zipCode }
  perform (.add .organizations organization)
  return organization

/-- Fetch an organization. -/
def get (organizationId : String) : Procedure Organization :=
  perform (.get .organizations organizationId)

/-- Fetch all organizations. -/
def list : Procedure (List Organization) := perform (.list .organizations)

/-- Edit an organization. -/
def update (edit : OrganizationEdit) : Procedure Organization := do
  validate edit.validate
  let organization ← get edit.organizationId
  -- a name is looked up only if it is a new one
  (edit.name.filter (· ≠ organization.name)).forM fun name =>
    requireFreeName name (some organization.organizationId)
  let edited := edit.apply organization
  perform (.update .organizations edited)
  return edited

end Organizations

end TenantRegistry
