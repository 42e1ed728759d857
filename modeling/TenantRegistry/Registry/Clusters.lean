/-
TenantRegistry/Registry/Clusters.lean

Operations on clusters.

A cluster is replaced under its revision, so that a report and a cordon that
race cannot undo each other: the later one fails with a conflict.  A cluster
with nodes assigned to it cannot be removed.
-/
import TenantRegistry.Ownership
import TenantRegistry.Validation

namespace TenantRegistry

open Procedure

/-! ### Moves of a status -/

/-- What moves the status of a cluster. -/
inductive ClusterAction where
  | cordon
  | uncordon
  /-- A health report. -/
  | report (health : ClusterHealth)
  deriving DecidableEq, Inhabited

namespace ClusterAction

/-- The status after an action. -/
def move : ClusterAction → ClusterStatus → Except RegistryError ClusterStatus
  | .cordon, status =>
    (status.cordoned?).elim (.error (.failedPrecondition .cordonUnknown)) .ok
  | .uncordon, status =>
    (status.uncordoned?).elim (.error (.failedPrecondition .uncordonUnknown)) .ok
  | .report health, status => .ok (status.withHealth health)

/-- The outcomes of actions one after another, and the status they lead to.
An action that fails leaves the status as it is. -/
def walk : List ClusterAction → ClusterStatus →
    List (Except RegistryError ClusterStatus) × ClusterStatus
  | [], status => ([], status)
  | action :: rest, status =>
    let outcome := action.move status
    let (outcomes, last) := walk rest (outcome.toOption.getD status)
    (outcome :: outcomes, last)

end ClusterAction

/-! ### Operations -/

/-- A cluster with an edit made. -/
def ClusterEdit.apply (edit : ClusterEdit) (cluster : Cluster) : Cluster :=
  { cluster with
    name := edit.name.getD cluster.name
    hostname := edit.hostname.getD cluster.hostname
    controlPlaneHostname := edit.controlPlaneHostname.getD cluster.controlPlaneHostname
    labels := edit.labels.getD cluster.labels
    status := edit.health.elim cluster.status cluster.status.withHealth
    lastAlive := edit.lastAlive.getD cluster.lastAlive }

namespace Clusters

/-- Register a cluster.  Its power is unknown until it reports. -/
def add (request : NewCluster) : Procedure Cluster := do
  validate request.validate
  requireOrganization request.organizationId
  let clusterId ← freshId
  let created ← now
  let cluster : Cluster :=
    { clusterId, created
      organizationId := request.organizationId
      name := request.name
      hostname := request.hostname
      controlPlaneHostname := request.controlPlaneHostname
      labels := request.labels
      status := .unknown
      lastAlive := 0
      revision := 0 }
  ChildKind.cluster.add cluster.organizationId cluster
  return cluster

/-- Fetch a cluster. -/
def get (organizationId clusterId : String) : Procedure Cluster :=
  ChildKind.cluster.get organizationId clusterId

/-- Write back a cluster that was fetched before. -/
def store (cluster : Cluster) : Procedure Cluster :=
  perform (.replace .clusters cluster cluster.revision)

/-- Edit a cluster, or report its health. -/
def update (edit : ClusterEdit) : Procedure Cluster := do
  validate edit.validate
  let cluster ← get edit.organizationId edit.clusterId
  store (edit.apply cluster)

/-- Move the status of a cluster.  A move that changes nothing writes nothing. -/
def move (action : ClusterAction) (organizationId clusterId : String) : Procedure Cluster := do
  let cluster ← get organizationId clusterId
  let status ← check (action.move cluster.status)
  -- a cordon that is in place already counts no revision
  if status = cluster.status then return cluster
  else store { cluster with status }

/-- Keep new work off a cluster. -/
def cordon (organizationId clusterId : String) : Procedure Cluster :=
  move .cordon organizationId clusterId

/-- Let new work onto a cluster. -/
def uncordon (organizationId clusterId : String) : Procedure Cluster :=
  move .uncordon organizationId clusterId

/-- Remove a cluster without nodes.  Its entry in the index goes first, so that
it is not listed any more when its row goes; the entry comes back if the row
stays. -/
def remove (organizationId clusterId : String) : Procedure Unit := do
  validate (ensureIdentifier "organization_id" organizationId)
  validate (ensureIdentifier "cluster_id" clusterId)
  ChildKind.cluster.require organizationId clusterId
  -- nodes name their cluster, and no index does
  let nodes : List Node ← listByOwner .nodes organizationId
  let assigned := nodes.countP fun node => node.clusterId = some clusterId
  if assigned > 0 then throw (.failedPrecondition (.nodesAssigned clusterId assigned))
  else
    ExceptT.mk (dualWrite
      (perform (.removeChild organizationId .cluster clusterId)).run
      (perform (.addChild organizationId .cluster clusterId)).run
      (perform (.remove .clusters clusterId)).run)

end Clusters

end TenantRegistry
