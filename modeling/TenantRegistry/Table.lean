/-
TenantRegistry/Table.lean

The tables of the registry and what stands in them.

There are fourteen tables, each with a row type.  A row has a key, which is
unique in its table, and most rows have an owner.  The rows of two tables,
clusters and instances, count how often they were replaced; the rows of the
others always report revision 0 and ignore being given another.

`Tables F` holds one thing for each table, of a type that may differ from
table to table.  A backend keeps its tables in one.  Main results:
`get_set_self` and `get_set_of_ne`.

Six tables hold what an organization owns through the index; `ChildKind`
names them.
-/
import TenantRegistry.Cluster
import TenantRegistry.Instance
import TenantRegistry.Inventory
import TenantRegistry.Member
import TenantRegistry.Organization

namespace TenantRegistry

/-! ### Tables and rows -/

/-- The tables. -/
inductive Table where
  | organizations
  | clusters
  | nodes
  | users
  | roles
  | descriptors
  | instances
  | snapshots
  | parameters
  | deviceGroups
  | devices
  | assets
  | accounts
  | projects
  deriving DecidableEq, Inhabited

namespace Table

def all : List Table :=
  [organizations, clusters, nodes, users, roles, descriptors, instances, snapshots, parameters,
    deviceGroups, devices, assets, accounts, projects]

/-- The name of a table, as it appears in messages. -/
def name : Table → String
  | organizations => "organizations"
  | clusters => "clusters"
  | nodes => "nodes"
  | users => "users"
  | roles => "roles"
  | descriptors => "app_descriptors"
  | instances => "app_instances"
  | snapshots => "parametrized_descriptors"
  | parameters => "instance_parameters"
  | deviceGroups => "device_groups"
  | devices => "devices"
  | assets => "assets"
  | accounts => "accounts"
  | projects => "projects"

/-- The table of that name. -/
def ofName? (text : String) : Option Table := all.find? fun table => table.name = text

/-- What stands in a table. -/
@[reducible] def Row : Table → Type
  | organizations => Organization
  | clusters => Cluster
  | nodes => Node
  | users => User
  | roles => Role
  | descriptors => Descriptor
  | instances => Instance
  | snapshots => Snapshot
  | parameters => InstanceParameters
  | deviceGroups => DeviceGroup
  | devices => Device
  | assets => Asset
  | accounts => Account
  | projects => Project

/-- The key of a row. -/
def key : (table : Table) → table.Row → String
  | organizations, row => row.organizationId
  | clusters, row => row.clusterId
  | nodes, row => row.nodeId
  | users, row => row.email
  | roles, row => row.roleId
  | descriptors, row => row.descriptorId
  | instances, row => row.instanceId
  | snapshots, row => row.instanceId
  | parameters, row => row.instanceId
  | deviceGroups, row => row.deviceGroupId
  | devices, row => row.deviceId
  | assets, row => row.assetId
  | accounts, row => row.accountId
  | projects, row => row.projectId

/-- The organization or account that owns a row. -/
def owner? : (table : Table) → table.Row → Option String
  | organizations, _ => none
  | clusters, row => some row.organizationId
  | nodes, row => some row.organizationId
  | users, row => some row.organizationId
  | roles, row => some row.organizationId
  | descriptors, row => some row.organizationId
  | instances, row => some row.organizationId
  | snapshots, row => some row.organizationId
  | parameters, row => some row.organizationId
  | deviceGroups, row => some row.organizationId
  | devices, row => some row.organizationId
  | assets, row => some row.organizationId
  | accounts, _ => none
  | projects, row => some row.ownerAccountId

/-- How often a row was replaced, as far as its table counts. -/
def revision : (table : Table) → table.Row → UInt64
  | clusters, row => row.revision
  | instances, row => row.revision
  | _, _ => 0

/-- The row with its revision set, if its table counts revisions. -/
def withRevision : (table : Table) → table.Row → UInt64 → table.Row
  | clusters, row, revision => { row with revision }
  | instances, row, revision => { row with revision }
  | _, row, _ => row

/-- The written form of the rows of a table. -/
def rowLayout : (table : Table) → Layout table.Row
  | organizations => (inferInstance : HasLayout Organization).layout
  | clusters => (inferInstance : HasLayout Cluster).layout
  | nodes => (inferInstance : HasLayout Node).layout
  | users => (inferInstance : HasLayout User).layout
  | roles => (inferInstance : HasLayout Role).layout
  | descriptors => (inferInstance : HasLayout Descriptor).layout
  | instances => (inferInstance : HasLayout Instance).layout
  | snapshots => (inferInstance : HasLayout Snapshot).layout
  | parameters => (inferInstance : HasLayout InstanceParameters).layout
  | deviceGroups => (inferInstance : HasLayout DeviceGroup).layout
  | devices => (inferInstance : HasLayout Device).layout
  | assets => (inferInstance : HasLayout Asset).layout
  | accounts => (inferInstance : HasLayout Account).layout
  | projects => (inferInstance : HasLayout Project).layout

/-- Rows can be compared. -/
def rowDecidableEq : (table : Table) → DecidableEq table.Row
  | organizations => (inferInstance : DecidableEq Organization)
  | clusters => (inferInstance : DecidableEq Cluster)
  | nodes => (inferInstance : DecidableEq Node)
  | users => (inferInstance : DecidableEq User)
  | roles => (inferInstance : DecidableEq Role)
  | descriptors => (inferInstance : DecidableEq Descriptor)
  | instances => (inferInstance : DecidableEq Instance)
  | snapshots => (inferInstance : DecidableEq Snapshot)
  | parameters => (inferInstance : DecidableEq InstanceParameters)
  | deviceGroups => (inferInstance : DecidableEq DeviceGroup)
  | devices => (inferInstance : DecidableEq Device)
  | assets => (inferInstance : DecidableEq Asset)
  | accounts => (inferInstance : DecidableEq Account)
  | projects => (inferInstance : DecidableEq Project)

instance (table : Table) : HasLayout table.Row := ⟨table.rowLayout⟩

instance (table : Table) : DecidableEq table.Row := table.rowDecidableEq

end Table

/-! ### One thing for each table -/

/-- One thing for each table. -/
structure Tables (F : Table → Type) where
  organizations : F .organizations
  clusters : F .clusters
  nodes : F .nodes
  users : F .users
  roles : F .roles
  descriptors : F .descriptors
  instances : F .instances
  snapshots : F .snapshots
  parameters : F .parameters
  deviceGroups : F .deviceGroups
  devices : F .devices
  assets : F .assets
  accounts : F .accounts
  projects : F .projects

namespace Tables

variable {F : Table → Type}

/-- A thing made for each table. -/
def ofFn (f : (table : Table) → F table) : Tables F where
  organizations := f .organizations
  clusters := f .clusters
  nodes := f .nodes
  users := f .users
  roles := f .roles
  descriptors := f .descriptors
  instances := f .instances
  snapshots := f .snapshots
  parameters := f .parameters
  deviceGroups := f .deviceGroups
  devices := f .devices
  assets := f .assets
  accounts := f .accounts
  projects := f .projects

/-- The thing that stands for a table. -/
def get (tables : Tables F) : (table : Table) → F table
  | .organizations => tables.organizations
  | .clusters => tables.clusters
  | .nodes => tables.nodes
  | .users => tables.users
  | .roles => tables.roles
  | .descriptors => tables.descriptors
  | .instances => tables.instances
  | .snapshots => tables.snapshots
  | .parameters => tables.parameters
  | .deviceGroups => tables.deviceGroups
  | .devices => tables.devices
  | .assets => tables.assets
  | .accounts => tables.accounts
  | .projects => tables.projects

/-- Another thing for one table. -/
def set (tables : Tables F) : (table : Table) → F table → Tables F
  | .organizations, value => { tables with organizations := value }
  | .clusters, value => { tables with clusters := value }
  | .nodes, value => { tables with nodes := value }
  | .users, value => { tables with users := value }
  | .roles, value => { tables with roles := value }
  | .descriptors, value => { tables with descriptors := value }
  | .instances, value => { tables with instances := value }
  | .snapshots, value => { tables with snapshots := value }
  | .parameters, value => { tables with parameters := value }
  | .deviceGroups, value => { tables with deviceGroups := value }
  | .devices, value => { tables with devices := value }
  | .assets, value => { tables with assets := value }
  | .accounts, value => { tables with accounts := value }
  | .projects, value => { tables with projects := value }

@[simp] theorem get_ofFn (f : (table : Table) → F table) (table : Table) :
    (ofFn f).get table = f table := by
  cases table <;> rfl

@[simp] theorem get_set_self (tables : Tables F) (table : Table) (value : F table) :
    (tables.set table value).get table = value := by
  cases table <;> rfl

/-- **Setting one table leaves the others alone.** -/
theorem get_set_of_ne (tables : Tables F) {table other : Table} (value : F table)
    (h : other ≠ table) : (tables.set table value).get other = tables.get other := by
  cases table <;> cases other <;> first | rfl | exact absurd rfl h

/-- Two families of tables are equal if they agree table by table. -/
theorem ext_get {a b : Tables F} (h : ∀ table, a.get table = b.get table) : a = b := by
  have h₁ := h .organizations
  have h₂ := h .clusters
  have h₃ := h .nodes
  have h₄ := h .users
  have h₅ := h .roles
  have h₆ := h .descriptors
  have h₇ := h .instances
  have h₈ := h .snapshots
  have h₉ := h .parameters
  have h₁₀ := h .deviceGroups
  have h₁₁ := h .devices
  have h₁₂ := h .assets
  have h₁₃ := h .accounts
  have h₁₄ := h .projects
  cases a
  cases b
  simp only [get] at h₁ h₂ h₃ h₄ h₅ h₆ h₇ h₈ h₉ h₁₀ h₁₁ h₁₂ h₁₃ h₁₄
  subst h₁ h₂ h₃ h₄ h₅ h₆ h₇ h₈ h₉ h₁₀ h₁₁ h₁₂ h₁₃ h₁₄
  rfl

end Tables

/-! ### What organizations own through the index -/

/-- The kinds of things that an organization owns through the index. -/
inductive ChildKind where
  | cluster
  | node
  | descriptor
  | appInstance
  | user
  | role
  deriving DecidableEq, Inhabited

namespace ChildKind

def all : List ChildKind := [cluster, node, descriptor, appInstance, user, role]

/-- The name of a kind, in index keys and in messages. -/
def name : ChildKind → String
  | cluster => "cluster"
  | node => "node"
  | descriptor => "descriptor"
  | appInstance => "instance"
  | user => "user"
  | role => "role"

/-- The table with the rows of a kind. -/
@[reducible] def table : ChildKind → Table
  | cluster => .clusters
  | node => .nodes
  | descriptor => .descriptors
  | appInstance => .instances
  | user => .users
  | role => .roles

/-- The rows of a kind. -/
abbrev Row (kind : ChildKind) : Type := kind.table.Row

end ChildKind

instance : HasLayout ChildKind :=
  ⟨.choice ChildKind.all ChildKind.name (by intro kind; cases kind <;> rfl)⟩

end TenantRegistry
