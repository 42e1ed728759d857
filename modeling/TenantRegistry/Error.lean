/-
TenantRegistry/Error.lean

What can go wrong, and how it is put into words.

An error is a cause: which row is missing, which rule a request breaks,
which two revisions differ.  The wording of each cause is in one function,
`message`.  Storage fails with a `StoreError`, an operation of the registry
with a `RegistryError`; `RegistryError.ofStore` says how the first shows as
the second.

Where an error reaches the registry from outside, only its wording is known;
each family of causes has a case `worded` for it.
-/
import TenantRegistry.Table

namespace TenantRegistry

/-! ### Causes -/

/-- A thing that is missing, or already there. -/
inductive Subject where
  /-- A row under a key. -/
  | row (table : Table) (key : String)
  | organization (organizationId : String)
  | organizationNamed (name : String)
  /-- An index entry. -/
  | child (kind : ChildKind) (childId organizationId : String)
  | deviceGroup (name organizationId : String)
  | serviceGroup (serviceGroupId instanceId : String)
  | service (serviceId serviceGroupId descriptorId : String)
  | groupInstance (groupInstanceId instanceId : String)
  | groupInstanceOf (groupInstanceId serviceGroupId instanceId : String)
  | worded (text : String)
  deriving DecidableEq

/-- A rule that a request breaks. -/
inductive Violation where
  | unset (field : String)
  /-- An identifier with the separator of index keys in it. -/
  | separator (field value : String)
  | portRange (field : String) (port : UInt32)
  | notAnAddress (email : String)
  | noGroups
  | repeatedGroup (name : String)
  | emptyGroup (name : String)
  | repeatedService (name groupName : String)
  | noReplicas
  | tooManyReplicas (count : UInt32)
  /-- An instance of another descriptor than the one asked for. -/
  | otherDescriptor (instanceId descriptorId asked : String)
  /-- A durable registry without a place to keep it. -/
  | noPath
  | worded (text : String)
  deriving DecidableEq

/-- A state that an operation cannot start from. -/
inductive Obstacle where
  | cordonUnknown
  | uncordonUnknown
  | nodesAssigned (clusterId : String) (count : Nat)
  | descriptorInUse (descriptorId : String) (count : Nat)
  | worded (text : String)
  deriving DecidableEq

/-- Two parts of the registry that disagree. -/
inductive Inconsistency where
  /-- An index entry for a row of another owner. -/
  | foreignOwner (kind : ChildKind) (key organizationId : String) (owner : Option String)
  | noGroupInstance (instanceId groupInstanceId : String)
  | noServiceInstance (groupInstanceId serviceInstanceId : String)
  | worded (text : String)
  deriving DecidableEq

/-- A failure of storage. -/
inductive StoreError where
  | openDatabase (detail : String)
  | transaction (detail : String)
  | table (detail : String)
  | read (detail : String)
  | write (detail : String)
  | serialize (detail : String)
  | deserialize (detail : String)
  | notFound (what : Subject)
  | alreadyExists (what : Subject)
  /-- A replacement of another revision than the stored one. -/
  | conflict (key : String) (expected found : UInt64)
  | lock (detail : String)
  deriving DecidableEq

/-- A replacement that lost against another writer. -/
inductive Conflict where
  | revision (key : String) (expected found : UInt64)
  | worded (text : String)
  deriving DecidableEq

/-- A failure of an operation. -/
inductive RegistryError where
  | notFound (what : Subject)
  | alreadyExists (what : Subject)
  | invalidArgument (what : Violation)
  | failedPrecondition (what : Obstacle)
  | internal (what : Inconsistency)
  | conflict (what : Conflict)
  | storage (cause : StoreError)
  deriving DecidableEq

/-- The largest number of group instances that one request may add. -/
def maxReplicas : UInt32 := 1024

/-! ### Wording -/

def Subject.message : Subject → String
  | .row table key => s!"{table.name} {key}"
  | .organization organizationId => s!"organization {organizationId}"
  | .organizationNamed name => s!"organization named {name}"
  | .child kind childId organizationId => s!"{kind.name} {childId} in organization {organizationId}"
  | .deviceGroup name organizationId => s!"device group {name} in organization {organizationId}"
  | .serviceGroup serviceGroupId instanceId =>
    s!"service group {serviceGroupId} in instance {instanceId}"
  | .service serviceId serviceGroupId descriptorId =>
    s!"service {serviceId} in group {serviceGroupId} of descriptor {descriptorId}"
  | .groupInstance groupInstanceId instanceId =>
    s!"service group instance {groupInstanceId} in instance {instanceId}"
  | .groupInstanceOf groupInstanceId serviceGroupId instanceId =>
    s!"service group instance {groupInstanceId} of group {serviceGroupId} in instance {instanceId}"
  | .worded text => text

def Violation.message : Violation → String
  | .unset field => s!"{field} must be set"
  | .separator field value => s!"{field} must not contain '/': {value}"
  | .portRange field port => s!"{field} {port.toNat} is outside 1..=65535"
  | .notAnAddress email => s!"email is not an address: {email}"
  | .noGroups => "descriptor needs at least one service group"
  | .repeatedGroup name => s!"duplicate service group name {name}"
  | .emptyGroup name => s!"service group {name} has no services"
  | .repeatedService name groupName => s!"duplicate service name {name} in group {groupName}"
  | .noReplicas => "replica_count must be at least 1"
  | .tooManyReplicas count =>
    s!"replica_count must be at most {maxReplicas.toNat}, got {count.toNat}"
  | .otherDescriptor instanceId descriptorId asked =>
    s!"instance {instanceId} was created from descriptor {descriptorId}, not {asked}"
  | .noPath => "storage.path is required for the redb backend"
  | .worded text => text

def Obstacle.message : Obstacle → String
  | .cordonUnknown => "cannot cordon a cluster whose health is unknown"
  | .uncordonUnknown => "cannot uncordon a cluster whose health is unknown"
  | .nodesAssigned clusterId count => s!"cluster {clusterId} still has {count} node(s) assigned"
  | .descriptorInUse descriptorId count =>
    s!"descriptor {descriptorId} is used by {count} instance(s)"
  | .worded text => text

def Inconsistency.message : Inconsistency → String
  | .foreignOwner kind key organizationId owner =>
    let holder := owner.getD "nobody"
    s!"{kind.name} {key} is indexed under {organizationId} but owned by {holder}"
  | .noGroupInstance instanceId groupInstanceId =>
    s!"instance {instanceId} has no service group instance {groupInstanceId}"
  | .noServiceInstance groupInstanceId serviceInstanceId =>
    s!"service group instance {groupInstanceId} has no service instance {serviceInstanceId}"
  | .worded text => text

/-- A replacement that found another revision, in words. -/
def revisionConflict (key : String) (expected found : UInt64) : String :=
  s!"revision conflict on {key}: expected {expected.toNat}, found {found.toNat}"

def Conflict.message : Conflict → String
  | .revision key expected found => revisionConflict key expected found
  | .worded text => text

def StoreError.message : StoreError → String
  | .openDatabase detail => s!"failed to open database: {detail}"
  | .transaction detail => s!"transaction error: {detail}"
  | .table detail => s!"table error: {detail}"
  | .read detail => s!"read error: {detail}"
  | .write detail => s!"write error: {detail}"
  | .serialize detail => s!"serialization error: {detail}"
  | .deserialize detail => s!"deserialization error: {detail}"
  | .notFound what => s!"not found: {what.message}"
  | .alreadyExists what => s!"already exists: {what.message}"
  | .conflict key expected found => revisionConflict key expected found
  | .lock detail => s!"lock poisoned: {detail}"

def RegistryError.message : RegistryError → String
  | .notFound what => s!"not found: {what.message}"
  | .alreadyExists what => s!"already exists: {what.message}"
  | .invalidArgument what => s!"invalid argument: {what.message}"
  | .failedPrecondition what => s!"failed precondition: {what.message}"
  | .internal what => s!"internal error: {what.message}"
  | .conflict what => s!"conflict: {what.message}"
  | .storage cause => s!"storage error: {cause.message}"

/-! ### Kinds -/

/-- The short name of the kind of a storage failure. -/
def StoreError.kind : StoreError → String
  | .openDatabase _ => "open"
  | .transaction _ => "transaction"
  | .table _ => "table"
  | .read _ => "read"
  | .write _ => "write"
  | .serialize _ => "serialize"
  | .deserialize _ => "deserialize"
  | .notFound _ => "not_found"
  | .alreadyExists _ => "already_exists"
  | .conflict _ _ _ => "conflict"
  | .lock _ => "lock"

/-- The short name of the kind of a failed operation. -/
def RegistryError.kind : RegistryError → String
  | .notFound _ => "not_found"
  | .alreadyExists _ => "already_exists"
  | .invalidArgument _ => "invalid_argument"
  | .failedPrecondition _ => "failed_precondition"
  | .internal _ => "internal"
  | .conflict _ => "conflict"
  | .storage _ => "storage"

/-! ### From storage to operations -/

/-- How a failure of storage shows as a failure of an operation: what is
missing, already there or in conflict keeps its kind, all else is storage. -/
def RegistryError.ofStore : StoreError → RegistryError
  | .notFound what => .notFound what
  | .alreadyExists what => .alreadyExists what
  | .conflict key expected found => .conflict (.revision key expected found)
  | cause => .storage cause

end TenantRegistry
