/-
TenantRegistry/Proofs/Effect.lean

What an operation can do to storage, said once.

`Effect` lists, for all operations together, every way in which storage may
differ after an operation, whatever calls were stopped: what was written or
deleted, what was there before, and what it takes for only a part of the writes
to remain.  An invariant of the registry is then a matter of these cases and
not of the operations, and no later proof looks at an operation again.  What an
operation writes into a row is in `Draft` and `Edit`.
-/
import TenantRegistry.Proofs.Rows
import TenantRegistry.Proofs.Writing

namespace TenantRegistry

open Procedure

/-! ### Kinds of operations -/

/-- A call that writes to the index. -/
def Call.WritesIndex : Call → Prop
  | .addChild _ _ _ => True
  | .removeChild _ _ _ => True
  | _ => False

/-- Some write to the index was stopped. -/
def IndexWriteStopped (trace : List Attempt) : Prop :=
  ∃ attempt ∈ trace, attempt.fault.isSome = true ∧ attempt.call.WritesIndex

namespace Operation

/-- The organization that an operation is for. -/
def addressee? : Operation → Option String
  | addOrganization _ => none
  | getOrganization o => some o
  | listOrganizations => none
  | updateOrganization edit => some edit.organizationId
  | get _ o _ => some o
  | list _ o => some o
  | remove _ o _ => some o
  | addCluster request => some request.organizationId
  | updateCluster edit => some edit.organizationId
  | cordonCluster o _ => some o
  | uncordonCluster o _ => some o
  | addNode request => some request.organizationId
  | assignNode o _ _ => some o
  | addUser request => some request.organizationId
  | addRole request => some request.organizationId
  | addDescriptor request => some request.organizationId
  | updateDescriptor edit => some edit.organizationId
  | addInstance request => some request.organizationId
  | getSnapshot o _ => some o
  | getParameters o _ => some o
  | addGroupInstances request => some request.organizationId
  | addServiceInstance request => some request.organizationId
  | reportStatus report => some report.organizationId
  | setReplicas o _ _ _ _ => some o
  | setStatus o _ _ => some o
  | removeGroupInstances o _ => some o

/-- The table of the row that an operation edits. -/
def edits? : Operation → Option Table
  | updateOrganization _ => some .organizations
  | updateCluster _ => some .clusters
  | cordonCluster _ _ => some .clusters
  | uncordonCluster _ _ => some .clusters
  | assignNode _ _ _ => some .nodes
  | updateDescriptor _ => some .descriptors
  | addGroupInstances _ => some .instances
  | addServiceInstance _ => some .instances
  | reportStatus _ => some .instances
  | setReplicas _ _ _ _ _ => some .instances
  | setStatus _ _ _ => some .instances
  | removeGroupInstances _ _ => some .instances
  | _ => none

/-- The kind of row that an operation registers, and its organization.  An
instance comes with more than a row. -/
def registers? : Operation → Option (ChildKind × String)
  | addCluster request => some (.cluster, request.organizationId)
  | addNode request => some (.node, request.organizationId)
  | addUser request => some (.user, request.organizationId)
  | addRole request => some (.role, request.organizationId)
  | addDescriptor request => some (.descriptor, request.organizationId)
  | _ => none

theorem addressee?_of_registers? {operation : Operation} {kind : ChildKind} {o : String}
    (h : operation.registers? = some (kind, o)) : operation.addressee? = some o := by
  cases operation <;> cases h <;> rfl

/-- Operations with a first write that they do not undo when the second fails. -/
def irrevocable : Operation → Bool
  | addDescriptor _ => true
  | remove kind _ _ => kind ≠ .cluster
  | _ => false

end Operation

/-! ### Effects -/

namespace Memory

/-- Each row stands under its own key. -/
def Keyed (memory : Memory) : Prop :=
  ∀ table key row, memory.row? table key = some row → table.key row = key

theorem Keyed.self {memory : Memory} (h : memory.Keyed) {table : Table} {key : String}
    {row : table.Row} (hrow : memory.row? table key = some row) :
    memory.row? table (table.key row) = some row := by
  rwa [h table key row hrow]

/-- Nothing of the organization refers to a child that is about to go. -/
def Unused (memory : Memory) (organizationId : String) (kind : ChildKind) (childId : String) :
    Prop :=
  match kind with
  | .cluster => ∀ key (node : Node), memory.row? .nodes key = some node →
      node.organizationId = organizationId → node.clusterId ≠ some childId
  | .descriptor => ∀ key (app : Instance), memory.row? .instances key = some app →
      app.organizationId = organizationId → app.descriptorId ≠ childId
  | _ => True

/-- Memory with an optional row put under its key. -/
def putGiven (memory : Memory) (table : Table) (row : Option table.Row) : Memory :=
  row.elim memory (memory.put table)

@[simp] theorem children_putGiven (memory : Memory) (table : Table) (row : Option table.Row) :
    (memory.putGiven table row).children = memory.children := by
  cases row <;> rfl

theorem row?_putGiven_of_ne (memory : Memory) {table other : Table} (row : Option table.Row)
    (h : other ≠ table) (key : String) :
    (memory.putGiven table row).row? other key = memory.row? other key := by
  cases row with
  | none => rfl
  | some row => exact memory.row?_put_of_ne row h key

theorem row?_putGiven_of_key_ne (memory : Memory) {table other : Table} {row : Option table.Row}
    {key : String} (h : ∀ given ∈ row, key ≠ table.key given) :
    (memory.putGiven table row).row? other key = memory.row? other key := by
  cases row with
  | none => rfl
  | some row => exact memory.row?_put_of_key_ne (h row rfl)

/-- Memory with those of the first three writes that make an instance that remain. -/
def remains (memory : Memory) (app : Instance) (snapshot : Snapshot) (row entry copy : Bool) :
    Memory :=
  let memory := if row then memory.put .instances app else memory
  let memory := if entry then memory.enter app.organizationId .appInstance app.instanceId else memory
  if copy then memory.put .snapshots snapshot else memory

/-- What holds before, and is kept by each of the first three writes that make an instance, holds
whichever of them remain. -/
theorem remains_induction {motive : Memory → Prop} {memory : Memory} {app : Instance}
    {snapshot : Snapshot} (before : motive memory)
    (put_app : motive memory → motive (memory.put .instances app))
    (enter : ∀ memory, motive memory →
      motive (memory.enter app.organizationId .appInstance app.instanceId))
    (put_copy : ∀ memory, motive memory → motive (memory.put .snapshots snapshot))
    (row entry copy : Bool) : motive (memory.remains app snapshot row entry copy) := by
  have hrow : motive (if row then memory.put .instances app else memory) := by
    cases row with
    | false => exact before
    | true => exact put_app before
  have hentry : motive (memory.remains app snapshot row entry false) := by
    cases entry with
    | false => exact hrow
    | true => exact enter _ hrow
  cases copy with
  | false => exact hentry
  | true => exact put_copy _ hentry

/-- The writes that make an instance leave rows under other keys alone. -/
theorem row?_remains_of_key_ne (memory : Memory) {app : Instance} {snapshot : Snapshot}
    (hsnapshot : snapshot.instanceId = app.instanceId) {table : Table} {key : String}
    (hkey : key ≠ app.instanceId) {row entry copy : Bool} :
    (memory.remains app snapshot row entry copy).row? table key = memory.row? table key := by
  have hcopy : key ≠ snapshot.instanceId := hsnapshot ▸ hkey
  refine remains_induction (motive := fun after => after.row? table key = memory.row? table key)
    rfl ?_ ?_ ?_ row entry copy
  · exact fun _ => row?_put_of_key_ne _ hkey
  · exact fun _ hsame => hsame
  · exact fun _ hsame => (row?_put_of_key_ne _ hcopy).trans hsame

/-- The same for an instance that is gone, and of which the snapshot and the parameters may have
stayed. -/
theorem removed_induction {motive : Memory → Prop} {memory : Memory} {instanceId : String}
    (removed : motive memory)
    (drop_copy : motive memory → motive (memory.drop .snapshots instanceId))
    (drop_given : ∀ memory, motive memory → motive (memory.drop .parameters instanceId))
    (copy given : Bool) :
    motive (
      let memory := if copy then memory else memory.drop .snapshots instanceId
      if given then memory else memory.drop .parameters instanceId) := by
  have hcopy : motive (if copy then memory else memory.drop .snapshots instanceId) := by
    cases copy with
    | false => exact drop_copy removed
    | true => exact removed
  cases given with
  | false => exact drop_given _ hcopy
  | true => exact hcopy

/-- An instance that was removed is not stored, whatever of it is. -/
theorem row?_removedInstance (memory : Memory) (o i : String) (copy given : Bool) :
    row? (
      let memory := (memory.drop .instances i).leave o .appInstance i
      let memory := if copy then memory else memory.drop .snapshots i
      if given then memory else memory.drop .parameters i) .instances i = none := by
  refine removed_induction
    (motive := fun memory => memory.row? .instances i = none) ?_ ?_ ?_ copy given
  · rw [row?_leave, row?_drop_self, if_pos rfl]
  · intro hgone
    rwa [row?_drop_of_ne _ _ (by decide)]
  · intro memory hgone
    rwa [row?_drop_of_ne _ _ (by decide)]

end Memory

/-! ### What an edit keeps -/

/-- What an organization finds: its own row, or one that it fetched. -/
inductive Memory.Found (memory : Memory) (organizationId : String) :
    (table : Table) → table.Row → Prop
  | organization {row : Organization}
      (present : memory.row? .organizations organizationId = some row) :
      Found memory organizationId .organizations row
  | child {kind : ChildKind} {childId : String} {row : kind.Row}
      (fetched : memory.Fetched kind organizationId childId row) :
      Found memory organizationId kind.table row

theorem Memory.Found.present {memory : Memory} {organizationId : String} {table : Table}
    {row : table.Row} (h : memory.Found organizationId table row) (hkeyed : memory.Keyed) :
    memory.row? table (table.key row) = some row := by
  cases h with
  | organization present => exact hkeyed.self present
  | child fetched => exact hkeyed.self fetched.present

namespace Edit

variable {memory : Memory} {ids ids' : IdSource} {operation : Operation} {table : Table}
  {before after : table.Row}

theorem edits (h : Edit memory ids ids' operation table before after) :
    operation.edits? = some table := by
  cases h <;> rfl

/-- **A row that is edited was found by the organization that the operation is for.** -/
theorem found (h : Edit memory ids ids' operation table before after) :
    ∃ o, operation.addressee? = some o ∧ memory.Found o table before := by
  cases h with
  | organization valid present => exact ⟨_, rfl, .organization present⟩
  | cluster valid fetched => exact ⟨_, rfl, .child fetched⟩
  | cordon fetched => exact ⟨_, rfl, .child fetched⟩
  | uncordon fetched => exact ⟨_, rfl, .child fetched⟩
  | assignment fetched => exact ⟨_, rfl, .child fetched⟩
  | descriptor valid fetched => exact ⟨_, rfl, .child fetched⟩
  | groupInstances valid listed fetched => exact ⟨_, rfl, .child fetched⟩
  | serviceInstance valid live fetched => exact ⟨_, rfl, .child fetched⟩
  | report valid fetched => exact ⟨_, rfl, .child fetched⟩
  | replicas fetched => exact ⟨_, rfl, .child fetched⟩
  | status fetched => exact ⟨_, rfl, .child fetched⟩
  | noGroups fetched => exact ⟨_, rfl, .child fetched⟩

/-- A row that is edited keeps its key. -/
theorem key (h : Edit memory ids ids' operation table before after) :
    table.key after = table.key before := by
  cases h <;> rfl

/-- A row that is edited keeps its owner. -/
theorem owner (h : Edit memory ids ids' operation table before after) :
    table.owner? after = table.owner? before := by
  cases h <;> rfl

/-- A row that is edited was there under its key. -/
theorem present (h : Edit memory ids ids' operation table before after) (hkeyed : memory.Keyed) :
    memory.row? table (table.key after) = some before := by
  obtain ⟨o, -, hfound⟩ := h.found
  rw [h.key]
  exact hfound.present hkeyed

end Edit

variable (world world' : World Memory) (trace : List Attempt)

/-- A row that an operation found no reason not to register. -/
structure NewRow (kind : ChildKind) (organizationId : String) (row : kind.Row) : Prop where
  owner : kind.table.owner? row = some organizationId
  organization : (world.store.row? .organizations organizationId).isSome = true
  plain : Plain organizationId
  /-- Users have keys of their own; all others have ids drawn by the operation. -/
  key : if kind = .user then Plain (kind.table.key row)
    else world.ids.Issued world'.ids (kind.table.key row)
  absent : world.store.row? kind.table (kind.table.key row) = none

/-- An instance, with all that comes with it, that an operation found no reason not to make. -/
structure NewInstanceRows (organizationId : String) (app : Instance) (snapshot : Snapshot)
    (parameters : Option InstanceParameters) : Prop where
  owner : app.organizationId = organizationId
  organization : (world.store.row? .organizations organizationId).isSome = true
  plain : Plain organizationId
  issued : world.ids.Issued world'.ids app.instanceId
  /-- The snapshot is of the descriptor that the instance is made from. -/
  descriptor : ∃ (descriptor : Descriptor) (deviceGroups : List DeviceGroup),
    world.store.row? .descriptors app.descriptorId = some descriptor ∧
      descriptor.organizationId = organizationId ∧
      descriptor.snapshot app.instanceId deviceGroups = .ok snapshot
  no_groups : app.groups = []
  snapshot_key : snapshot.instanceId = app.instanceId
  snapshot_owner : snapshot.organizationId = organizationId
  parameters_key : ∀ given ∈ parameters, given.instanceId = app.instanceId
  parameters_owner : ∀ given ∈ parameters, given.organizationId = organizationId

/-- `Effect world world' trace operation succeeded`: what may be different after
an operation. -/
inductive Effect : Operation → Bool → Prop
  /-- Nothing. -/
  | unchanged {operation : Operation} {succeeded : Bool} (store : world'.store = world.store)
      (index : operation.irrevocable = true → ¬ IndexWriteStopped trace) :
      Effect operation succeeded
  /-- There is one more organization. -/
  | founded {request : NewOrganization} (organization : Organization)
      (issued : world.ids.Issued world'.ids organization.organizationId)
      (absent : world.store.row? .organizations organization.organizationId = none)
      (store : world'.store = world.store.put .organizations organization) :
      Effect (.addOrganization request) true
  /-- A row was edited, but neither its key nor its owner. -/
  | edited {operation : Operation} {table : Table} (before after : table.Row)
      (edits : operation.edits? = some table)
      (present : world.store.row? table (table.key after) = some before)
      (owner : table.owner? after = table.owner? before)
      (store : world'.store = world.store.put table after)
      (edit : Edit world.store world.ids world'.ids operation table before after) :
      Effect operation true
  /-- There is one more row, and it is listed. -/
  | registered {operation : Operation} {kind : ChildKind} {organizationId : String}
      (row : kind.Row) (registers : operation.registers? = some (kind, organizationId))
      (new : NewRow world world' kind organizationId row)
      (unlisted : world.store.hasChild organizationId kind (kind.table.key row) = false)
      (store : world'.store = (world.store.put kind.table row).enter organizationId kind
        (kind.table.key row))
      (draft : Draft world.ids world'.ids operation kind row) :
      Effect operation true
  /-- There is one more row, which could not be entered into the index nor deleted again. -/
  | stored {operation : Operation} {kind : ChildKind} {organizationId : String}
      (row : kind.Row) (registers : operation.registers? = some (kind, organizationId))
      (new : NewRow world world' kind organizationId row)
      (cause : world.store.hasChild organizationId kind (kind.table.key row) = true ∨
        (kind = .descriptor ∧ IndexWriteStopped trace) ∨ 2 ≤ stops trace)
      (store : world'.store = world.store.put kind.table row)
      (draft : Draft world.ids world'.ids operation kind row) :
      Effect operation false
  /-- A row is gone, and its entry in the index too. -/
  | removed {kind : ChildKind} {organizationId childId : String} (row : kind.Row)
      (others : kind ≠ .appInstance)
      (listed : world.store.hasChild organizationId kind childId = true)
      (present : world.store.row? kind.table childId = some row)
      (unused : world.store.Unused organizationId kind childId)
      (store : world'.store =
        (world.store.drop kind.table childId).leave organizationId kind childId) :
      Effect (.remove kind organizationId childId) true
  /-- An instance is gone, and what came with it too, if nothing stopped that. -/
  | removedInstance {organizationId instanceId : String} (app : Instance) (copy given : Bool)
      (listed : world.store.hasChild organizationId .appInstance instanceId = true)
      (present : world.store.row? .instances instanceId = some app)
      (cause : (copy = true ∨ given = true) → stops trace ≠ 0)
      (store : world'.store =
        let memory :=
          (world.store.drop .instances instanceId).leave organizationId .appInstance instanceId
        let memory := if copy then memory else memory.drop .snapshots instanceId
        if given then memory else memory.drop .parameters instanceId) :
      Effect (.remove .appInstance organizationId instanceId) true
  /-- A row is gone, and its entry in the index stays. -/
  | dropped {kind : ChildKind} {organizationId childId : String} (row : kind.Row)
      (others : kind ≠ .cluster)
      (listed : world.store.hasChild organizationId kind childId = true)
      (present : world.store.row? kind.table childId = some row)
      (unused : world.store.Unused organizationId kind childId)
      (cause : ∃ error, (⟨.removeChild organizationId kind childId, some error⟩ : Attempt) ∈ trace)
      (store : world'.store = world.store.drop kind.table childId) :
      Effect (.remove kind organizationId childId) false
  /-- A cluster is not listed any more, but its row stays. -/
  | unlisted {organizationId clusterId : String}
      (listed : world.store.hasChild organizationId .cluster clusterId = true)
      (unused : world.store.Unused organizationId .cluster clusterId)
      (cause : world.store.row? .clusters clusterId = none ∨
        world.store.row? .organizations organizationId = none ∨ 2 ≤ stops trace)
      (store : world'.store = world.store.leave organizationId .cluster clusterId) :
      Effect (.remove .cluster organizationId clusterId) false
  /-- There is one more instance, with all that comes with it. -/
  | launched {request : NewInstance} (app : Instance) (snapshot : Snapshot)
      (parameters : Option InstanceParameters)
      (new : NewInstanceRows world world' request.organizationId app snapshot parameters)
      (absent : world.store.row? .instances app.instanceId = none)
      (unlisted : world.store.hasChild request.organizationId .appInstance app.instanceId = false)
      (no_snapshot : world.store.row? .snapshots app.instanceId = none)
      (no_parameters : parameters ≠ none → world.store.row? .parameters app.instanceId = none)
      (store : world'.store =
        (world.store.remains app snapshot true true true).putGiven .parameters parameters) :
      Effect (.addInstance request) true
  /-- Some of the writes that make an instance remain. -/
  | remaining {request : NewInstance} (app : Instance) (snapshot : Snapshot)
      (parameters : Option InstanceParameters)
      (new : NewInstanceRows world world' request.organizationId app snapshot parameters)
      (row entry copy : Bool) (some : (row || entry || copy) = true)
      (absent : world.store.row? .instances app.instanceId = none)
      (unlisted : entry = true →
        world.store.hasChild request.organizationId .appInstance app.instanceId = false)
      (no_snapshot : copy = true → world.store.row? .snapshots app.instanceId = none)
      (cause : 2 ≤ stops trace ∨
        world.store.hasChild request.organizationId .appInstance app.instanceId = true ∨
        world.store.row? .snapshots app.instanceId ≠ none ∨
        world.store.row? .parameters app.instanceId ≠ none)
      (store : world'.store = world.store.remains app snapshot row entry copy) :
      Effect (.addInstance request) false

end TenantRegistry
