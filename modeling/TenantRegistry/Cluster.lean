/-
TenantRegistry/Cluster.lean

Clusters, and the states a cluster moves through.

A status has two halves.  The power half is what a monitor reports; the
cordon half is what an operator asks for.  A cluster that never reported has
unknown power and cannot be cordoned, so there are five statuses and not six.

* `withHealth` moves the power half and keeps the cordon half;
* `cordoned?` and `uncordoned?` move the cordon half and keep the power
  half; they have no answer for unknown power.

Main results: a status is rebuilt from its halves (`ofParts_power_isCordoned`),
and each move touches its own half only.
-/
import TenantRegistry.Json.Layout

namespace TenantRegistry

/-! ### Status -/

/-- Power of a cluster, as far as it was reported. -/
inductive ClusterPower where
  | unknown
  | online
  | offline
  deriving DecidableEq, Inhabited

/-- What a monitor reports. -/
inductive ClusterHealth where
  | online
  | offline
  deriving DecidableEq, Inhabited

/-- Power and cordon of a cluster. -/
inductive ClusterStatus where
  | unknown
  | online
  | offline
  | onlineCordon
  | offlineCordon
  deriving DecidableEq, Inhabited

namespace ClusterPower

def all : List ClusterPower := [unknown, online, offline]

def name : ClusterPower → String
  | unknown => "unknown"
  | online => "online"
  | offline => "offline"

end ClusterPower

namespace ClusterHealth

def all : List ClusterHealth := [online, offline]

def name : ClusterHealth → String
  | online => "online"
  | offline => "offline"

/-- The power that a report states. -/
def power : ClusterHealth → ClusterPower
  | online => .online
  | offline => .offline

end ClusterHealth

namespace ClusterStatus

def all : List ClusterStatus := [unknown, online, offline, onlineCordon, offlineCordon]

def name : ClusterStatus → String
  | unknown => "unknown"
  | online => "online"
  | offline => "offline"
  | onlineCordon => "online_cordon"
  | offlineCordon => "offline_cordon"

/-- The power half. -/
def power : ClusterStatus → ClusterPower
  | unknown => .unknown
  | online => .online
  | offline => .offline
  | onlineCordon => .online
  | offlineCordon => .offline

/-- The cordon half: whether new work is kept off the cluster. -/
def isCordoned : ClusterStatus → Bool
  | onlineCordon => true
  | offlineCordon => true
  | _ => false

/-- The status with the given halves.  Unknown power is never cordoned. -/
def ofParts : ClusterPower → Bool → ClusterStatus
  | .unknown, _ => unknown
  | .online, false => online
  | .online, true => onlineCordon
  | .offline, false => offline
  | .offline, true => offlineCordon

/-- The status after a health report. -/
def withHealth (status : ClusterStatus) (health : ClusterHealth) : ClusterStatus :=
  ofParts health.power status.isCordoned

/-- The status after an operator cordons the cluster, if its power is known. -/
def cordoned? : ClusterStatus → Option ClusterStatus
  | unknown => none
  | online => some onlineCordon
  | offline => some offlineCordon
  | onlineCordon => some onlineCordon
  | offlineCordon => some offlineCordon

/-- The status after an operator uncordons the cluster, if its power is known. -/
def uncordoned? : ClusterStatus → Option ClusterStatus
  | unknown => none
  | online => some online
  | offline => some offline
  | onlineCordon => some online
  | offlineCordon => some offline

/-- **A status is its two halves.** -/
theorem ofParts_power_isCordoned (status : ClusterStatus) :
    ofParts status.power status.isCordoned = status := by
  cases status <;> rfl

/-- A status that is put together has the power that was given. -/
theorem power_ofParts (power : ClusterPower) (cordoned : Bool) :
    (ofParts power cordoned).power = power := by
  cases power <;> cases cordoned <;> rfl

/-- Known power can be cordoned. -/
theorem isCordoned_ofParts {power : ClusterPower} (h : power ≠ .unknown) (cordoned : Bool) :
    (ofParts power cordoned).isCordoned = cordoned := by
  cases power with
  | unknown => exact absurd rfl h
  | online => cases cordoned <;> rfl
  | offline => cases cordoned <;> rfl

/-- A report sets the power half. -/
theorem power_withHealth (status : ClusterStatus) (health : ClusterHealth) :
    (status.withHealth health).power = health.power := by
  cases status <;> cases health <;> rfl

/-- A report keeps the cordon half. -/
theorem isCordoned_withHealth (status : ClusterStatus) (health : ClusterHealth) :
    (status.withHealth health).isCordoned = status.isCordoned := by
  cases status <;> cases health <;> rfl

/-- Cordoning is a matter of the cordon half, and of known power. -/
theorem cordoned?_eq (status : ClusterStatus) :
    status.cordoned? = if status.power = .unknown then none else some (ofParts status.power true) := by
  cases status <;> rfl

/-- Uncordoning is a matter of the cordon half, and of known power. -/
theorem uncordoned?_eq (status : ClusterStatus) :
    status.uncordoned? =
      if status.power = .unknown then none else some (ofParts status.power false) := by
  cases status <;> rfl

end ClusterStatus

instance : HasLayout ClusterPower :=
  ⟨.choice ClusterPower.all ClusterPower.name (by intro power; cases power <;> rfl)⟩

instance : HasLayout ClusterHealth :=
  ⟨.choice ClusterHealth.all ClusterHealth.name (by intro health; cases health <;> rfl)⟩

instance : HasLayout ClusterStatus :=
  ⟨.choice ClusterStatus.all ClusterStatus.name (by intro status; cases status <;> rfl)⟩

/-! ### Record -/

/-- A cluster registered by an organization. -/
structure Cluster where
  organizationId : String
  clusterId : String
  name : String
  hostname : String
  controlPlaneHostname : String
  labels : Labels
  status : ClusterStatus
  /-- When the cluster last reported, in seconds of the epoch; 0 if never. -/
  lastAlive : Int64
  created : Int64
  /-- How often the stored cluster was replaced. -/
  revision : UInt64
  deriving DecidableEq, Inhabited

instance : HasLayout Cluster where
  layout := .record
    (.required "organization_id" <| .required "cluster_id" <| .required "name" <|
      .required "hostname" <| .defaulting "control_plane_hostname" "" <|
      .defaulting "labels" .empty <| .required "status" <| .defaulting "last_alive_timestamp" 0 <|
      .required "created" <| .defaulting "revision" 0 .nil)
    (fun c => (c.organizationId, c.clusterId, c.name, c.hostname, c.controlPlaneHostname, c.labels,
      c.status, c.lastAlive, c.created, c.revision, ()))
    (fun (organizationId, clusterId, name, hostname, controlPlaneHostname, labels, status, lastAlive,
        created, revision, ()) =>
      { organizationId, clusterId, name, hostname, controlPlaneHostname, labels, status, lastAlive,
        created, revision })
    (fun _ => rfl)

end TenantRegistry
