/-
TenantRegistry/Organization.lean

Organizations, the tenants that own everything else.
-/
import TenantRegistry.Json.Layout

namespace TenantRegistry

/-- A tenant.  No two organizations share a name. -/
structure Organization where
  organizationId : String
  name : String
  fullAddress : String
  city : String
  state : String
  country : String
  zipCode : String
  /-- When the organization was created, in seconds of the epoch. -/
  created : Int64
  deriving DecidableEq, Inhabited

instance : HasLayout Organization where
  layout := .record
    (.required "organization_id" <| .required "name" <| .defaulting "full_address" "" <|
      .defaulting "city" "" <| .defaulting "state" "" <| .defaulting "country" "" <|
      .defaulting "zip_code" "" <| .required "created" .nil)
    (fun o => (o.organizationId, o.name, o.fullAddress, o.city, o.state, o.country, o.zipCode,
      o.created, ()))
    (fun (organizationId, name, fullAddress, city, state, country, zipCode, created, ()) =>
      { organizationId, name, fullAddress, city, state, country, zipCode, created })
    (fun _ => rfl)

end TenantRegistry
