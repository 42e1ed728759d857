/-
TenantRegistry/Command.lean

The commands of an operator.

A command runs one operation and prints what it answers, as JSON for people,
or says that something is gone.  A descriptor is read from a file; the
organization that the command names replaces the one in the file.
-/
import TenantRegistry.Json.Printer
import TenantRegistry.Json.Reader
import TenantRegistry.Operation

namespace TenantRegistry

/-- What an operator asks for. -/
inductive Command where
  | addOrganization (name : String)
  | listOrganizations
  | addCluster (organizationId name hostname : String)
  | listClusters (organizationId : String)
  | cordonCluster (organizationId clusterId : String)
  | uncordonCluster (organizationId clusterId : String)
  | reportHealth (organizationId clusterId : String) (health : ClusterHealth)
  | removeCluster (organizationId clusterId : String)
  | addDescriptor (organizationId file : String)
  | listDescriptors (organizationId : String)
  | addInstance (organizationId descriptorId name : String)
  | showInstance (organizationId instanceId : String)
  | removeInstance (organizationId instanceId : String)
  deriving DecidableEq

/-- Why a command failed. -/
inductive CommandError where
  | unreadable (file : String)
  | unparsable (file : String)
  | registry (cause : RegistryError)
  deriving DecidableEq

def CommandError.message : CommandError → String
  | .unreadable file => s!"failed to read {file}"
  | .unparsable file => s!"failed to parse {file}"
  | .registry cause => cause.message

namespace Command

/-- JSON as a command prints it. -/
def printed (json : Json) : String := json.toPretty ++ "\n"

/-- What a command prints about something that it removed. -/
def removal (noun id : String) : String := s!"✓ Removed {noun} {id}\n"

/-- The file that a command reads. -/
def file? : Command → Option String
  | addDescriptor _ file => some file
  | _ => none

/-- The request in a file, for an organization. -/
def readDescriptor (organizationId file : String) (contents : Option String) :
    Except CommandError NewDescriptor := do
  let text ← contents.elim (.error (.unreadable file)) .ok
  let request : NewDescriptor ←
    ((Json.parse text).bind decode).elim (.error (.unparsable file)) .ok
  return { request with organizationId }

/-- Run an operation and print its answer. -/
def report (operation : Operation) : Procedure String := do
  let answer ← operation.procedure
  return printed (operation.encodeAnswer answer)

/-- Run an operation and print what it removed. -/
def reportRemoval (operation : Operation) (noun id : String) : Procedure String := do
  let _ ← operation.procedure
  return removal noun id

/-- Print an instance with its snapshot. -/
def reportInstance (organizationId instanceId : String) : Procedure String := do
  let app : Instance ← Instances.get organizationId instanceId
  let snapshot : Snapshot ← Instances.snapshot organizationId instanceId
  return printed (Json.ofMembers
    [("instance", encode app), ("parametrized_descriptor", encode snapshot)])

/-- What a command does, given the contents of the file that it reads, and what
it prints. -/
def procedure (contents : Option String) : Command → Except CommandError (Procedure String)
  | addOrganization name => return report (.addOrganization
      { name, fullAddress := "", city := "", state := "", country := "", zipCode := "" })
  | listOrganizations => return report .listOrganizations
  | addCluster organizationId name hostname => return report (.addCluster
      { organizationId, name, hostname, controlPlaneHostname := "", labels := .empty })
  | listClusters organizationId => return report (.list .cluster organizationId)
  | cordonCluster organizationId clusterId => return report (.cordonCluster organizationId clusterId)
  | uncordonCluster organizationId clusterId =>
    return report (.uncordonCluster organizationId clusterId)
  | reportHealth organizationId clusterId health => return do
      let time ← Procedure.now
      report (.updateCluster
        { organizationId, clusterId
          name := none
          hostname := none
          controlPlaneHostname := none
          labels := none
          health := some health
          lastAlive := some time })
  | removeCluster organizationId clusterId =>
    return reportRemoval (.remove .cluster organizationId clusterId) "cluster" clusterId
  | addDescriptor organizationId file => do
    let request ← readDescriptor organizationId file contents
    return report (.addDescriptor request)
  | listDescriptors organizationId => return report (.list .descriptor organizationId)
  | addInstance organizationId descriptorId name => return report (.addInstance
      { organizationId, descriptorId, name, labels := .empty, parameters := none })
  | showInstance organizationId instanceId => return reportInstance organizationId instanceId
  | removeInstance organizationId instanceId =>
    return reportRemoval (.remove .appInstance organizationId instanceId) "instance" instanceId

end Command

end TenantRegistry
