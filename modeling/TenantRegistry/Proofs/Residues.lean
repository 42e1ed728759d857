/-
TenantRegistry/Proofs/Residues.lean

What is added and then removed leaves nothing behind.

An addition writes up to four pieces, and a removal goes another way to delete
them.  Between the two the row may be edited any number of times.  What all states
in between have in common is that one child is all that storage has more than it
had before (`Memory.Extra`): without the child, and what came with it, storage is
what it was.  Operations that are about the child keep that, whatever they do to it
and whichever of their calls are stopped, and a removal brings storage back.

A removal is refused while something refers to the child.  When no call is
stopped, what rows refer to is there (`Settled.sound`), and so nothing refers to a
child that is new.

Main result: `removed_without_residue`.
-/
import TenantRegistry.Proofs.References
import TenantRegistry.Proofs.Snapshots
import TenantRegistry.Proofs.WellFormed

namespace TenantRegistry

open Procedure

/-! ### All but one child -/

namespace Memory

/-- Memory without a child, and without what came with it. -/
def without (memory : Memory) (kind : ChildKind) (organizationId childId : String) : Memory :=
  let rest := (memory.drop kind.table childId).leave organizationId kind childId
  match kind with
  | .appInstance => (rest.drop .snapshots childId).drop .parameters childId
  | _ => rest

/-- **All that memory has more than `before` is one child**, which is listed and to which nothing
refers. -/
structure Extra (before memory : Memory) (kind : ChildKind) (organizationId childId : String) :
    Prop where
  without : memory.without kind organizationId childId = before
  listed : memory.hasChild organizationId kind childId = true
  present : ∃ row, memory.row? kind.table childId = some row
  unused : memory.Unused organizationId kind childId

variable {memory before : Memory} {kind : ChildKind} {o c : String}

theorem without_of_ne (memory : Memory) (hkind : kind ≠ .appInstance) (o c : String) :
    memory.without kind o c = (memory.drop kind.table c).leave o kind c := by
  cases kind with
  | appInstance => exact absurd rfl hkind
  | _ => rfl

/-- What becomes of a child does not matter to memory without it. -/
theorem without_put (memory : Memory) {row : kind.Row} (hkey : kind.table.key row = c)
    (o : String) : (memory.put kind.table row).without kind o c = memory.without kind o c := by
  subst hkey
  unfold without
  rw [drop_put_self]

/-- No child refers to one of its own kind. -/
theorem Unused.put (h : memory.Unused o kind c) (row : kind.Row) :
    (memory.put kind.table row).Unused o kind c := by
  cases kind with
  | cluster =>
    intro key node hrow
    rw [row?_put_of_ne _ _ (by decide)] at hrow
    exact h key node hrow
  | descriptor =>
    intro key app hrow
    rw [row?_put_of_ne _ _ (by decide)] at hrow
    exact h key app hrow
  | _ => trivial

/-- A child that is written again is still all that memory has more. -/
theorem Extra.put (h : Extra before memory kind o c) {row : kind.Row}
    (hkey : kind.table.key row = c) : Extra before (memory.put kind.table row) kind o c where
  without := (memory.without_put hkey o).trans h.without
  listed := h.listed
  present := ⟨row, row?_put_of_key_eq hkey⟩
  unused := h.unused.put row

/-- A row that is registered is all that memory has more. -/
theorem Extra.of_register {row : kind.Row} (hkind : kind ≠ .appInstance)
    (habsent : memory.row? kind.table (kind.table.key row) = none)
    (hunlisted : memory.hasChild o kind (kind.table.key row) = false)
    (hunused : memory.Unused o kind (kind.table.key row)) :
    Extra memory ((memory.put kind.table row).enter o kind (kind.table.key row)) kind o
      (kind.table.key row) where
  without := by
    rw [without_of_ne _ hkind]
    show (((memory.put kind.table row).drop kind.table _).enter o kind _).leave o kind _ = memory
    rw [drop_put habsent, leave_enter hunlisted]
  listed := hasChild_enter_iff.mpr (Or.inl rfl)
  present := ⟨row, row?_put_of_key_eq rfl⟩
  unused := hunused.put row

/-- An instance that was made is all that memory has more, with what came with it. -/
theorem Extra.of_created {app : Instance} {snapshot : Snapshot}
    {parameters : Option InstanceParameters} {after : Memory}
    (h : Instances.Created memory after app snapshot parameters)
    (hsnapshot : snapshot.instanceId = app.instanceId)
    (hgiven : ∀ given ∈ parameters, given.instanceId = app.instanceId)
    (hno_parameters : memory.row? .parameters app.instanceId = none) :
    Extra memory after .appInstance app.organizationId app.instanceId := by
  have happ : (memory.put .instances app).drop .instances app.instanceId = memory :=
    drop_put h.absent
  have hcopy : (memory.put .snapshots snapshot).drop .snapshots app.instanceId = memory := by
    rw [← hsnapshot]
    exact drop_put h.no_snapshot
  have hparameters : (memory.putGiven .parameters parameters).drop .parameters app.instanceId =
      memory := by
    cases parameters with
    | none => exact drop_of_absent hno_parameters
    | some given =>
      rw [← hgiven given rfl]
      exact drop_put (h.no_parameters given rfl)
  rw [h.store]
  refine ⟨?without, ?listed, ?present, trivial⟩
  case without =>
    -- the four writes go to different places, and so each meets its own deletion
    calc
      _ = ((((((memory.put .instances app).drop .instances app.instanceId).enter
          app.organizationId .appInstance app.instanceId).leave
          app.organizationId .appInstance app.instanceId).put .snapshots snapshot).drop
          .snapshots app.instanceId |>.putGiven .parameters parameters).drop
          .parameters app.instanceId := by cases parameters <;> rfl
      _ = memory := by rw [happ, leave_enter h.unlisted, hcopy, hparameters]
  case listed =>
    rw [hasChild, children_putGiven]
    exact hasChild_enter_iff.mpr (Or.inl rfl)
  case present =>
    have hrow : (memory.put .instances app).row? .instances app.instanceId = some app :=
      row?_put_of_key_eq rfl
    refine ⟨app, ?_⟩
    rw [row?_putGiven_of_ne _ _ (by decide)]
    exact hrow

end Memory

/-! ### Operations that are about a child -/

namespace Operation

/-- The child that an operation is about which neither adds nor removes it. -/
def attends? : Operation → Option (ChildKind × String)
  | get kind _ childId => some (kind, childId)
  | updateCluster edit => some (.cluster, edit.clusterId)
  | cordonCluster _ clusterId => some (.cluster, clusterId)
  | uncordonCluster _ clusterId => some (.cluster, clusterId)
  | assignNode _ nodeId _ => some (.node, nodeId)
  | updateDescriptor edit => some (.descriptor, edit.descriptorId)
  | getSnapshot _ instanceId => some (.appInstance, instanceId)
  | getParameters _ instanceId => some (.appInstance, instanceId)
  | addGroupInstances request => some (.appInstance, request.instanceId)
  | addServiceInstance request => some (.appInstance, request.instanceId)
  | reportStatus report => some (.appInstance, report.instanceId)
  | setReplicas _ instanceId _ _ _ => some (.appInstance, instanceId)
  | setStatus _ instanceId _ => some (.appInstance, instanceId)
  | removeGroupInstances _ instanceId => some (.appInstance, instanceId)
  | _ => none

theorem attends?_of_registers? {operation : Operation} {registered : ChildKind × String}
    (h : operation.registers? = some registered) : operation.attends? = none := by
  cases operation <;> first | rfl | cases h

end Operation

/-- The row that is edited is that of the child that the operation is about. -/
theorem Edit.child {memory : Memory} {ids ids' : IdSource} {operation : Operation} {table : Table}
    {before after : table.Row} {kind : ChildKind} {c : String}
    (h : Edit memory ids ids' operation table before after) (hkeyed : memory.Keyed)
    (hattends : operation.attends? = some (kind, c)) :
    table = kind.table ∧ table.key after = c := by
  rw [h.key]
  cases h with
  | organization => cases hattends
  | cordon fetched | uncordon fetched | assignment fetched | replicas fetched | status fetched
  | noGroups fetched | cluster _ fetched | descriptor _ fetched | report _ fetched
  | groupInstances _ _ fetched | serviceInstance _ _ fetched =>
    cases hattends
    exact ⟨rfl, hkeyed _ _ _ fetched.present⟩

section Attended

variable {before : Memory} {kind : ChildKind} {o c : String}

/-- **An operation that is about a child leaves it all that memory has more**, whatever is
stopped. -/
theorem Effect.extra {world world' : World Memory} {trace : List Attempt} {operation : Operation}
    {succeeded : Bool} (heffect : Effect world world' trace operation succeeded)
    (hkeyed : world.store.Keyed) (hattends : operation.attends? = some (kind, c))
    (h : Memory.Extra before world.store kind o c) : Memory.Extra before world'.store kind o c := by
  cases heffect with
  | unchanged store => exact store ▸ h
  | edited _ after _ _ _ store edit =>
    obtain ⟨rfl, hkey⟩ := edit.child hkeyed hattends
    exact store ▸ h.put hkey
  | registered _ registers | stored _ registers =>
    rw [Operation.attends?_of_registers? registers] at hattends
    cases hattends
  | founded | removed | removedInstance | dropped | unlisted | launched | remaining =>
    cases hattends

/-- **The same after any number of such operations.** -/
theorem Runs.extra {start world : World Store} {events : List Event} (h : Runs start events world)
    (hfaithful : start.store.Faithful) (hkeyed : start.store.contents.Keyed)
    (hstart : Memory.Extra before start.store.contents kind o c)
    (hattends : ∀ event ∈ events, event.operation.attends? = some (kind, c)) :
    world.store.Faithful ∧ world.store.contents.Keyed ∧
      Memory.Extra before world.store.contents kind o c := by
  induction h with
  | start => exact ⟨hfaithful, hkeyed, hstart⟩
  | @step events world world' operation time trace result before ends ih =>
    obtain ⟨hlast, hearlier⟩ := List.forall_mem_cons.mp hattends
    obtain ⟨hfaithful, hkeyed, hextra⟩ := ih hearlier
    obtain ⟨heffect, hafter⟩ := Operation.effect_contents ends hfaithful hkeyed
    exact ⟨hafter, heffect.keyed hkeyed, heffect.extra hkeyed hlast hextra⟩

end Attended

/-! ### The removal -/

/-- Whether a removal takes a text for the key of a child of a kind, or the error that it does
not.  Keys of nodes, users and roles are not looked at. -/
def ChildKind.takes : ChildKind → String → Except RegistryError Unit
  | .cluster, childId => valid (ensureIdentifier "cluster_id" childId)
  | .descriptor, childId => valid (ensureIdentifier "app_descriptor_id" childId)
  | .appInstance, childId => valid (ensureIdentifier "app_instance_id" childId)
  | _, _ => .ok ()

/-- **A plain key is taken, unless it is the empty text.** -/
theorem ChildKind.takes_eq_ok_iff {kind : ChildKind} {c : String} (hplain : Plain c) :
    kind.takes c = .ok () ↔ (c = "" → kind = .node ∨ kind = .user ∨ kind = .role) := by
  have hvalid (field : String) : valid (ensureIdentifier field c) = .ok () ↔ c ≠ "" := by
    rw [valid_eq_ok, ensureIdentifier_eq_ok_iff]
    exact ⟨fun h => h.nonempty, fun h => ⟨h, hplain⟩⟩
  cases kind <;> simp [takes, hvalid]

/-- A key that is not taken is an invalid argument. -/
theorem ChildKind.takes_of_refused {kind : ChildKind} {c : String} (h : kind.takes c ≠ .ok ()) :
    ∃ violation, kind.takes c = .error (.invalidArgument violation) := by
  have hvalid (field : String) (hne : valid (ensureIdentifier field c) ≠ .ok ()) :
      ∃ violation, valid (ensureIdentifier field c) = .error (.invalidArgument violation) := by
    rcases e : ensureIdentifier field c with violation | ⟨⟩
    · exact ⟨violation, rfl⟩
    · exact absurd (valid_eq_ok.mpr e) hne
  cases kind with
  | cluster | descriptor | appInstance => exact hvalid _ h
  | node | user | role => exact absurd rfl h

section Removal

variable {world : World Memory} {o c : String}

/-- A removal under a good id of an organization looks at the id of the child next. -/
theorem runWith_validated {field : String} {removal : Procedure Unit}
    (ho : ensureIdentifier "organization_id" o = .ok ()) :
    (validate (ensureIdentifier "organization_id" o) >>= fun _ =>
      validate (ensureIdentifier field c) >>= fun _ => removal).runWith .memory world =
      outcome world (valid (ensureIdentifier field c)) fun _ => removal.runWith .memory world := by
  have hfirst : (validate (ensureIdentifier "organization_id" o)).runWith .memory world =
      (.ok (), world) := by
    rw [runWith_validate, valid_eq_ok.mpr ho]
  rw [runWith_bind_ok hfirst]
  have hsecond : (validate (ensureIdentifier field c)).runWith .memory world =
      (valid (ensureIdentifier field c), world) := runWith_validate _ world
  rcases e : valid (ensureIdentifier field c) with error | ⟨⟩
  · rw [e] at hsecond
    exact runWith_bind_error hsecond
  · rw [e] at hsecond
    exact runWith_bind_ok hsecond

variable {kind : ChildKind} {before : Memory}

/-- **A removal that counts what refers to the child goes on when nothing does.** -/
theorem runWith_uncounted (table : Table) (test : table.Row → Bool) {field : String}
    {refusal : List table.Row → RegistryError} {removal : Procedure Unit}
    (ho : ensureIdentifier "organization_id" o = .ok ())
    (hlisted : world.store.hasChild o kind c = true)
    (hnone : ∀ key row, world.store.row? table key = some row → table.owner? row = some o →
      test row = false) :
    Procedure.runWith .memory (do
      validate (ensureIdentifier "organization_id" o)
      validate (ensureIdentifier field c)
      kind.require o c
      let rows ← listByOwner table o
      if rows.countP test > 0 then throw (refusal rows) else removal) world =
      outcome world (valid (ensureIdentifier field c)) fun _ => removal.runWith .memory world := by
  have hrequire : (kind.require o c).runWith .memory world = (.ok (), world) := by
    rw [ChildKind.runWith_require, Memory.require_eq_ok.mpr hlisted]
  have hlist : (listByOwner table o).runWith .memory world =
      (.ok ((world.store.rows table).values.filter fun row => table.owner? row = some o),
        world) := rfl
  have hcount : ((world.store.rows table).values.filter fun row =>
      table.owner? row = some o).countP test = 0 := by
    refine List.countP_eq_zero.mpr fun row hmem => ?_
    obtain ⟨hmem, howner⟩ := List.mem_filter.mp hmem
    obtain ⟨key, hrow⟩ := OrderedMap.mem_values_iff.mp hmem
    rw [hnone key row hrow (of_decide_eq_true howner)]
    exact Bool.false_ne_true
  refine (runWith_validated ho).trans (congrArg _ (funext fun _ => ?_))
  rw [runWith_bind_ok hrequire, runWith_bind_ok hlist,
    if_neg (by rw [hcount]; exact lt_irrefl 0)]

namespace Memory.Extra

variable (h : Extra before world.store kind o c)

include h

/-- The row and its entry go. -/
theorem runWith_remove_row : (kind.remove o c).runWith .memory world =
    (.ok (), { world with store := (world.store.drop kind.table c).leave o kind c }) := by
  rw [ChildKind.runWith_remove, removable_eq_ok.mpr ⟨h.listed, h.present⟩]
  rfl

end Memory.Extra

/-- A cluster goes that no node is assigned to. -/
theorem Clusters.runWith_remove (h : Memory.Extra before world.store .cluster o c)
    (ho : ensureIdentifier "organization_id" o = .ok ()) :
    (Clusters.remove o c).runWith .memory world =
      outcome world (ChildKind.takes .cluster c) fun _ =>
        (.ok (), { world with store := (world.store.drop .clusters c).leave o .cluster c }) := by
  refine (runWith_uncounted .nodes (fun node : Node => node.clusterId = some c) ho h.listed
    fun key node hrow howner => ?unassigned).trans (congrArg _ (funext fun _ => ?removed))
  case unassigned => simpa using h.unused key node hrow (Option.some.inj howner)
  -- the entry goes before the row
  have hleft : Memory.perform (.removeChild o .cluster c) world.store =
      (.ok (), world.store.leave o .cluster c) := by
    rw [Memory.perform_removeChild, if_pos h.listed]
  have hremoved : Memory.perform (.remove .clusters c) (world.store.leave o .cluster c) =
      (.ok (), (world.store.leave o .cluster c).drop .clusters c) := by
    obtain ⟨row, hrow⟩ := h.present
    rw [Memory.perform_remove, Memory.row?_leave, if_pos (Option.isSome_iff_exists.mpr ⟨row, hrow⟩)]
  exact runWith_dualWrite_ok (runWith_perform hleft) (runWith_perform hremoved)

/-- A descriptor goes that no instance was made from. -/
theorem Descriptors.runWith_remove (h : Memory.Extra before world.store .descriptor o c)
    (ho : ensureIdentifier "organization_id" o = .ok ()) :
    (Descriptors.remove o c).runWith .memory world =
      outcome world (ChildKind.takes .descriptor c) fun _ =>
        (.ok (),
          { world with store := (world.store.drop .descriptors c).leave o .descriptor c }) := by
  refine (runWith_uncounted .instances (fun app : Instance => app.descriptorId = c) ho h.listed
    fun key app hrow howner => ?unused).trans (congrArg _ (funext fun _ => h.runWith_remove_row))
  simpa using h.unused key app hrow (Option.some.inj howner)

/-- **The removal of the child that storage has more brings back what was before**, if it takes the
key of the child for one. -/
theorem Memory.Extra.runWith_remove (h : Extra before world.store kind o c)
    (ho : ensureIdentifier "organization_id" o = .ok ()) :
    (Operation.remove kind o c).procedure.runWith .memory world =
      outcome world (kind.takes c) fun _ => (.ok (), { world with store := before }) := by
  have hwithout := h.without
  cases kind with
  | cluster => exact hwithout ▸ Clusters.runWith_remove h ho
  | descriptor => exact hwithout ▸ Descriptors.runWith_remove h ho
  | appInstance =>
    have htarget : Instances.removalTarget o c world.store = ChildKind.takes .appInstance c := by
      rw [Instances.removalTarget, ho, removable_eq_ok.mpr ⟨h.listed, h.present⟩, ChildKind.takes]
      rcases valid (ensureIdentifier "app_instance_id" c) with error | ⟨⟩
      · rfl
      · rfl
    have hrun : (Instances.remove o c).runWith .memory world = _ := Instances.runWith_remove o c
    rw [htarget] at hrun
    exact hwithout ▸ hrun
  | node | user | role => exact hwithout ▸ h.runWith_remove_row

end Removal

/-! ### The addition -/

/-- `operation.Adds answer kind row`: an operation that adds a row of a kind and answers with it. -/
inductive Operation.Adds :
    (operation : Operation) → operation.Answer → (kind : ChildKind) → kind.Row → Prop
  | cluster (request : NewCluster) (row : Cluster) : Adds (.addCluster request) row .cluster row
  | node (request : NewNode) (row : Node) : Adds (.addNode request) row .node row
  | user (request : NewUser) (row : User) : Adds (.addUser request) row .user row
  | role (request : NewRole) (row : Role) : Adds (.addRole request) row .role row
  | descriptor (request : NewDescriptor) (row : Descriptor) :
      Adds (.addDescriptor request) row .descriptor row
  | appInstance (request : NewInstance) (row : Instance) :
      Adds (.addInstance request) row .appInstance row

/-- What is known of a row that was added: whose it is, and that it is all that memory has more. -/
structure Memory.AddedRow (before after : Memory) (kind : ChildKind) (organizationId : String)
    (row : kind.Row) : Prop where
  owner : kind.table.owner? row = some organizationId
  organization : ensureIdentifier "organization_id" organizationId = .ok ()
  plain : Plain (kind.table.key row)
  extra : Extra before after kind organizationId (kind.table.key row)

section Additions

variable {world world' : World Memory} {trace : List Attempt} {kind : ChildKind} {o : String}

/-- A row that was stored and entered is all that memory has more. -/
theorem ChildKind.extra_of_add {row answer : kind.Row} (hkind : kind ≠ .appInstance)
    (h : (kind.add o row >>= fun _ => pure row).Ends .memory world trace (.ok answer) world')
    (hresolved : world.store.Resolved) :
    answer = row ∧ Memory.Extra world.store world'.store kind o (kind.table.key row) := by
  obtain ⟨⟨⟩, between, _, _, hadd, h, -⟩ := ends_bind_ok h
  obtain ⟨-, hanswer, rfl⟩ := ends_pure h
  cases hanswer
  refine ⟨rfl, ?_⟩
  rcases ends_add hadd with ⟨hfailed, -⟩ | ⟨habsent, ⟨-, hunlisted, hstore⟩ | ⟨hfailed, -⟩⟩
  · cases hfailed
  · rw [hstore]
    exact .of_register hkind habsent hunlisted (hresolved.unused_of_absent habsent o)
  · cases hfailed

/-- The same for operations that register a row under an id that they draw. -/
theorem ChildKind.addedRow_of_register {valid : Except Violation Unit}
    (row : String → Int64 → kind.Row) {answer : kind.Row} (hkind : kind ≠ .appInstance)
    (hresolved : world.store.Resolved) (hplain : ∀ n, Plain (world.ids.name n))
    (h : Procedure.Ends .memory (do
      validate valid
      requireOrganization o
      let id ← freshId
      let time ← now
      kind.add o (row id time)
      return row id time) world trace (.ok answer) world')
    (hvalid : valid = .ok () → ensureIdentifier "organization_id" o = .ok ())
    (hkey : ∀ id time, kind.table.key (row id time) = id)
    (howner : ∀ id time, kind.table.owner? (row id time) = some o) :
    Memory.AddedRow world.store world'.store kind o answer := by
  obtain ⟨⟨⟩, w₁, _, _, haccepted, h, -⟩ := ends_bind_ok h
  obtain ⟨⟨⟩, w₂, _, _, hrequired, h, -⟩ := ends_bind_ok h
  have hlooked := ((reads_validate _).looked haccepted).trans
    ((reads_requireOrganization _).looked hrequired)
  have h := ends_now_bind (ends_freshId_bind h)
  rw [← hlooked.store] at hresolved ⊢
  obtain ⟨rfl, hextra⟩ := extra_of_add hkind h hresolved
  refine ⟨howner _ _, hvalid (ends_validate_ok haccepted), ?_, hextra⟩
  rw [hkey, IdSource.next, hlooked.ids.name]
  exact hplain _

theorem Users.addedRow (request : NewUser) {answer : User} (hresolved : world.store.Resolved)
    (h : (Users.add request).Ends .memory world trace (.ok answer) world') :
    Memory.AddedRow world.store world'.store .user request.organizationId answer := by
  obtain ⟨⟨⟩, w₁, _, _, haccepted, h, -⟩ := ends_bind_ok h
  obtain ⟨⟨⟩, w₂, _, _, hrequired, h, -⟩ := ends_bind_ok h
  have hlooked := ((reads_validate _).looked haccepted).trans
    ((reads_requireOrganization _).looked hrequired)
  obtain ⟨hid, hrest⟩ := both_eq_ok_iff.mp (ends_validate_ok haccepted)
  have h := ends_now_bind h
  have hkind : ChildKind.user ≠ .appInstance := by decide
  rw [← hlooked.store] at hresolved ⊢
  obtain ⟨rfl, hextra⟩ := ChildKind.extra_of_add hkind h hresolved
  exact ⟨rfl, hid, plain_of_ensureIdentifier (both_eq_ok_iff.mp hrest).1, hextra⟩

theorem Descriptors.addedRow (request : NewDescriptor) {answer : Descriptor}
    (hresolved : world.store.Resolved) (hplain : ∀ n, Plain (world.ids.name n))
    (h : (Descriptors.add request).Ends .memory world trace (.ok answer) world') :
    Memory.AddedRow world.store world'.store .descriptor request.organizationId answer := by
  obtain ⟨⟨⟩, w₁, _, _, haccepted, h, -⟩ := ends_bind_ok h
  obtain ⟨⟨⟩, w₂, _, _, hrequired, h, -⟩ := ends_bind_ok h
  have hfound := ((reads_validate _).looked haccepted).trans
    ((reads_requireOrganization _).looked hrequired)
  have h := ends_freshId_bind h
  obtain ⟨rules, w₃, _, _, hrules, h, -⟩ := ends_bind_ok h
  obtain ⟨groups, w₄, _, _, hgroups, h, -⟩ := ends_bind_ok h
  have hlater := ((reads_mapM reads_renewed_rule _).looked hrules).trans
    ((reads_mapM reads_renewed_group _).looked hgroups)
  have h := ends_now_bind h
  obtain ⟨⟨⟩, w₅, _, _, hadd, h, -⟩ := ends_bind_ok h
  obtain ⟨⟨⟩, w₆, _, _, hentry, h, -⟩ := ends_bind_ok h
  obtain ⟨-, hanswer, rfl⟩ := ends_pure h
  cases hanswer
  obtain ⟨habsent, hstored⟩ := ends_add_row_ok hadd
  obtain ⟨hunlisted, hentered⟩ := ends_addChild_ok hentry
  rw [hstored] at hunlisted hentered
  rw [hlater.store, hfound.store] at habsent hunlisted hentered
  refine ⟨rfl, (both_eq_ok_iff.mp (ends_validate_ok haccepted)).1, ?plain, ?extra⟩
  case plain =>
    show Plain w₂.ids.next
    rw [IdSource.next, hfound.ids.name]
    exact hplain _
  case extra =>
    have hkind : ChildKind.descriptor ≠ .appInstance := by decide
    have hfree : world.store.row? (ChildKind.table .descriptor) w₂.ids.next = none := habsent
    rw [hentered]
    exact .of_register hkind hfree hunlisted (hresolved.unused_of_absent hfree _)

theorem Instances.addedRow (request : NewInstance) {answer : Instance}
    (hconsistent : Consistent world.store) (hplain : ∀ n, Plain (world.ids.name n))
    (h : (Instances.add request).Ends .memory world trace (.ok answer) world') :
    Memory.AddedRow world.store world'.store .appInstance request.organizationId answer := by
  obtain ⟨hvalid, howner, hissued, snapshot, parameters, hsnapshot, hgiven, hcreated⟩ :=
    ends_add_ok h
  -- where there is no instance there are no parameters
  have hno_parameters : world.store.row? .parameters answer.instanceId = none := by
    refine Memory.ownerAt_eq_none.mp (Option.eq_none_iff_forall_ne_some.mpr fun owner hthere => ?_)
    have hinstance := hconsistent.parameters _ _ hthere
    rw [Memory.ownerAt_eq_none.mpr hcreated.absent] at hinstance
    cases hinstance
  rw [← howner]
  refine ⟨rfl, howner ▸ (both_eq_ok_iff.mp hvalid).1, hissued.plain ?_,
    .of_created hcreated hsnapshot hgiven hno_parameters⟩
  rw [h.extends.1.name]
  exact hplain

/-- **What an operation adds is all that memory has more**, if what rows refer to was there. -/
theorem Operation.Adds.addedRow {addition : Operation} {answer : addition.Answer} {row : kind.Row}
    (hadds : addition.Adds answer kind row) (hconsistent : Consistent world.store)
    (hresolved : world.store.Resolved) (hplain : ∀ n, Plain (world.ids.name n))
    (h : addition.procedure.Ends .memory world trace (.ok answer) world') :
    ∃ o, Memory.AddedRow world.store world'.store kind o row := by
  cases hadds with
  | cluster request =>
    exact ⟨_, ChildKind.addedRow_of_register _ nofun hresolved hplain h
      (fun hvalid => (both_eq_ok_iff.mp hvalid).1) (fun _ _ => rfl) fun _ _ => rfl⟩
  | node request =>
    exact ⟨_, ChildKind.addedRow_of_register _ nofun hresolved hplain h
      (fun hvalid => (both_eq_ok_iff.mp hvalid).1) (fun _ _ => rfl) fun _ _ => rfl⟩
  | user request => exact ⟨_, Users.addedRow request hresolved h⟩
  | role request =>
    exact ⟨_, ChildKind.addedRow_of_register _ nofun hresolved hplain h
      (fun hvalid => (both_eq_ok_iff.mp hvalid).1) (fun _ _ => rfl) fun _ _ => rfl⟩
  | descriptor request => exact ⟨_, Descriptors.addedRow request hresolved hplain h⟩
  | appInstance request => exact ⟨_, Instances.addedRow request hconsistent hplain h⟩

end Additions

/-! ### States without stops -/

/-- **An operation without stops keeps what rows refer to there.** -/
theorem Effect.references_resolved {world world' : World Memory} {trace : List Attempt}
    {operation : Operation} {succeeded : Bool}
    (heffect : Effect world world' trace operation succeeded)
    (hstops : stops trace = 0) (hconsistent : Consistent world.store) (h : world.store.Resolved) :
    world'.store.Resolved := by
  cases succeeded with
  | false =>
    have hsame := (heffect.leftover (by omega) hconsistent).eq_of_no_stops hstops
    exact hsame ▸ h
  | true =>
    cases heffect with
    | unchanged store => exact store ▸ h
    | founded _ _ _ store => exact store ▸ h.put_aside (by decide) rfl
    | edited before after _ present owner store edit =>
      rw [store]
      refine h.put (fun _ held hheld => ?_) fun kind c href => ?_
      · rw [Memory.ownerAt_of_row? present] at hheld
        exact owner.trans (Option.some.inj hheld)
      · rcases edit.reference? with hsame | ⟨o, cluster, howner, hassigned, hlisted⟩
        · rw [owner]
          exact h _ _ before kind c present (hsame ▸ href)
        -- the cluster was listed for the owner of the node
        · rw [hassigned] at href
          cases href
          rw [howner]
          exact (hconsistent.of_hasChild hlisted).1
    | registered row _ new _ store draft =>
      rw [store]
      refine h.put (fun _ held hheld => ?_) fun kind c href => ?_
      · rw [Memory.ownerAt_eq_none.mpr new.absent] at hheld
        cases hheld
      · rw [draft.reference?] at href
        cases href
    | @removed kind o c row _ listed _ unused store =>
      rw [store]
      refine h.drop fun other key found kind' hrow href htable => ?_
      obtain rfl := ChildKind.table_inj htable
      -- what refers to it has its owner, and it is not used there
      have howner := h other key found kind' c hrow href
      rw [(hconsistent.of_hasChild listed).1] at howner
      exact unused.reference?_ne hrow (Option.some.inj howner).symm href
    | @removedInstance o c app copy given _ _ _ store =>
      rw [store]
      have hgone : ((world.store.drop .instances c).leave o .appInstance c).Resolved :=
        h.drop_aside c (by decide)
      exact Memory.removed_induction hgone (fun h => h.drop_aside c (by decide))
        (fun _ h => h.drop_aside c (by decide)) copy given
    | launched app snapshot parameters new _ _ _ _ store =>
      obtain ⟨descriptor, _, hdescriptor, howner, -⟩ := new.descriptor
      have hremains : (world.store.remains app snapshot true true true).Resolved := by
        refine Memory.remains_induction h (fun h => h.put (by simp) ?_) (fun _ h => h)
          (fun _ h => h.put_aside (by decide) rfl) true true true
        rintro _ _ ⟨⟩
        rw [Memory.ownerAt_of_row? hdescriptor]
        exact congrArg (fun owner => some (some owner)) (howner.trans new.owner.symm)
      rw [store]
      cases parameters with
      | none => exact hremains
      | some given => exact hremains.put_aside (by decide) rfl

section Inventory

variable {memory : Memory} {call : Call} (haside : call.OnInventory)

include haside

/-- The places of the registry agree whatever becomes of the inventory. -/
theorem Consistent.inventory (h : Consistent memory)
    (howned : ∀ {table row o}, call.Puts table row → table.owner? row = some o →
      memory.ownerAt .organizations o ≠ none) : Consistent (memory.perform call).2 := by
  have hothers : ∀ {table : Table}, table.Inventory → ∀ other,
      other = .instances ∨ other = .snapshots ∨ other = .parameters → other ≠ table := by
    rintro table htable _ (rfl | rfl | rfl) <;> exact htable.ne id
  refine Memory.perform_induction h (fun {table row} hputs => ?put) (fun {table key} hcall => ?drop)
    (fun hcall => ?enter) fun hcall => ?leave
  case put =>
    have htable := haside.inventory hputs
    exact h.of_indexed (h.toIndexed.put_aside (fun kind => htable.ne kind.not_inventory)
      (htable.ne id) fun o => howned hputs)
      fun other hother => Memory.ownerAt_put_of_ne (hothers htable other hother) row
  case drop =>
    subst hcall
    have htable : table.Inventory := haside
    exact h.of_indexed (h.toIndexed.drop_aside (fun kind => htable.ne kind.not_inventory)
      (htable.ne id) key)
      fun other hother => Memory.ownerAt_drop_of_ne (hothers htable other hother) key
  case enter =>
    subst hcall
    exact haside.elim
  case leave =>
    subst hcall
    exact haside.elim

/-- Nothing refers to the inventory, and nothing in it refers to anything. -/
theorem Memory.Resolved.inventory (h : memory.Resolved) : (memory.perform call).2.Resolved := by
  have hothers : ∀ {table : Table}, table.Inventory → table ≠ .clusters ∧ table ≠ .descriptors :=
    fun htable => ⟨(htable.ne id).symm, (htable.ne id).symm⟩
  refine Memory.perform_induction h (fun {table row} hputs => ?put) (fun {table key} hcall => ?drop)
    (fun hcall => ?enter) fun hcall => ?leave
  case put =>
    have htable := haside.inventory hputs
    refine h.put_aside (hothers htable) ?_
    cases table <;> first | rfl | exact htable.elim
  case drop =>
    subst hcall
    exact h.drop_aside key (hothers haside)
  case enter =>
    subst hcall
    exact haside.elim
  case leave =>
    subst hcall
    exact haside.elim

end Inventory

/-- **A step without stops keeps the places of a registry in agreement, and what rows refer to
there.** -/
theorem Step.sound {world world' : World Store} {happening : Happening}
    (h : Step world happening world') (hstops : happening.Unstopped)
    (howned : happening.Owned world) (hbefore : world.Sound ∧ world.store.contents.Resolved) :
    world'.Sound ∧ world'.store.contents.Resolved := by
  obtain ⟨hsound, hresolved⟩ := hbefore
  cases happening with
  | operation event =>
    obtain ⟨time, heffect, -⟩ := h.effect hsound.faithful hsound.consistent.keyed
    exact ⟨hsound.step h hstops,
      heffect.references_resolved hstops hsound.consistent hresolved⟩
  | inventory call =>
    cases h with | inventory aside => ?_
    obtain ⟨-, hcontents, hafter⟩ := hsound.faithful.perform call
    refine ⟨⟨hafter, ?consistent, hsound.plain⟩, ?resolved⟩
    case consistent =>
      rw [hcontents]
      refine hsound.consistent.inventory aside fun hputs howner hnone => ?_
      have hstored := hsound.faithful.contains_eq_ok.mp (howned hputs howner)
      rw [Memory.ownerAt_eq_none.mp hnone] at hstored
      cases hstored
    case resolved =>
      rw [hcontents]
      exact hresolved.inventory aside

/-- **Without stops the places of a registry agree, and what rows refer to is there.** -/
theorem Settled.sound {world : World Store} (h : Settled world) :
    world.Sound ∧ world.store.contents.Resolved := by
  obtain ⟨start, happenings, hfresh, hplain, hrun⟩ := h
  refine hrun.keeps ?_ fun _ _ _ last => last.1.sound last.2.1 last.2.2
  rw [hfresh.contents_eq]
  exact ⟨World.sound_of_fresh hfresh hplain, .empty⟩

/-! ### From the addition to the removal -/

/-- **What is added and then removed leaves nothing behind**, whatever operations that are about it
come in between, and whichever of their calls are stopped.  The removal succeeds, unless its child
has the empty text for an id, which no cluster, descriptor or instance is removed under: then it is
refused as an invalid argument. -/
theorem removed_without_residue {world added edited : World Store} (hsettled : Settled world)
    {addition : Operation} {answer : addition.Answer} {kind : ChildKind} {row : kind.Row}
    (hadds : addition.Adds answer kind row) {time : Int64} {trace : List Attempt}
    (hadded : addition.procedure.Ends .store (world.at time) trace (.ok answer) added)
    {events : List Event} (hruns : Runs added events edited)
    (hattends : ∀ event ∈ events, event.operation.attends? = some (kind, kind.table.key row))
    {o : String} (howner : kind.table.owner? row = some o) (time' : Int64) :
    let ended := (Operation.remove kind o (kind.table.key row)).procedure.runWith .store
      (edited.at time')
    (ended.1 = .ok () ↔
        (kind.table.key row = "" → kind = .node ∨ kind = .user ∨ kind = .role)) ∧
      (ended.1 = .ok () →
        ended.2.store.Faithful ∧ ended.2.store.contents = world.store.contents) ∧
      (ended.1 ≠ .ok () → (∃ violation, ended.1 = .error (.invalidArgument violation)) ∧
        ended.2.store.contents = edited.store.contents) := by
  intro ended
  obtain ⟨hsound, hresolved⟩ := hsettled.sound
  have hat := hsound.at time
  -- what was added is all that storage has more
  obtain ⟨hends, hfaithful⟩ := Program.ends_contents hadded hat.faithful
  have hkeyed := (addition.effect hat.consistent.keyed hends).keyed hat.consistent.keyed
  obtain ⟨o', hrow⟩ := hadds.addedRow hat.consistent hresolved hat.plain hends
  obtain rfl : o' = o := Option.some.inj (hrow.owner.symm.trans howner)
  -- and it still is when it was edited, so that its removal brings storage back
  obtain ⟨hfaithful, -, hextra⟩ := hruns.extra hfaithful hkeyed hrow.extra hattends
  have hlast : (edited.at time').store.Faithful := hfaithful
  obtain ⟨hresult, hworld, hafter⟩ := Program.run_contents
    (Operation.remove kind o' (kind.table.key row)).procedure.run hlast
  have hremove : Memory.Extra world.store.contents (edited.at time').contents.store kind o'
      (kind.table.key row) := hextra
  have hrun := hremove.runWith_remove hrow.organization
  rw [runWith] at hrun
  rw [hrun] at hresult hworld
  have hended : ended.1 = .ok () ↔ kind.takes (kind.table.key row) = .ok () := by
    rw [show ended.1 = _ from hresult]
    rcases kind.takes (kind.table.key row) with error | ⟨⟩
    · constructor <;> rintro ⟨⟩
    · exact iff_of_true rfl rfl
  refine ⟨hended.trans (ChildKind.takes_eq_ok_iff hrow.plain), fun hok => ⟨hafter, ?removed⟩,
    fun hrefused => ?refused⟩
  case removed =>
    rw [hended.mp hok] at hworld
    exact congrArg World.store hworld
  case refused =>
    obtain ⟨violation, htakes⟩ := ChildKind.takes_of_refused (mt hended.mpr hrefused)
    rw [htakes] at hresult hworld
    exact ⟨⟨violation, hresult⟩, congrArg World.store hworld⟩

/-- An instance is made with a snapshot and parameters, is given two group instances, and fails to
be given a status because a call is stopped; then it is removed. -/
theorem removed_without_residue_of_instance :
    let service : Service := { (default : Service) with name := "api", image := "api:1" }
    let group : ServiceGroup :=
      { (default : ServiceGroup) with name := "web", services := [service] }
    let world : World Store :=
      World.afterAll { store := .memory .empty, ids := .sequential "id", clock := 0 }
        [(.addOrganization { (default : NewOrganization) with name := "acme" }, 1),
          (.addDescriptor { (default : NewDescriptor) with
            organizationId := "id-1", name := "shop", groups := [group] }, 2)]
    let addition : Operation := .addInstance { (default : NewInstance) with
      organizationId := "id-1", descriptorId := "id-2", name := "shop", parameters := some [] }
    let added := world.after addition 3
    let steps : List (Operation × Int64 × List (Option StoreError)) :=
      [(.addGroupInstances {
          organizationId := "id-1", descriptorId := "id-2", instanceId := "id-5"
          serviceGroupId := "id-3", replicaCount := 2 }, 4, []),
        (.setStatus "id-1" "id-5" .running, 5, [none, none, some (.write "down")])]
    let edited := added.afterStopping steps
    let ended := (Operation.remove .appInstance "id-1" "id-5").procedure.runWith .store
      (edited.at 6)
    (∃ app : Instance, edited.store.contents.row? .instances "id-5" = some app ∧
      app.groups.length = 2) ∧
    ended.1 = .ok () ∧ ended.2.store.contents = world.store.contents := by
  intro service group world addition added steps edited ended
  have hsettled : Settled world := (Settled.empty (Or.inl rfl)
    (IdSource.plain_sequential (by decide))).afterAll _
  have hanswer : ((addition.procedure.runWith .store (world.at 3)).1.toOption.map
      fun app : Instance => (app.instanceId, app.organizationId)) = some ("id-5", "id-1") := by
    decide +kernel
  obtain ⟨app, happ, hids⟩ := Option.map_eq_some_iff.mp hanswer
  obtain ⟨hid, howner⟩ := Prod.mk.inj hids
  obtain ⟨trace, -, hends⟩ := Procedure.ends_runWith .store addition.procedure (world.at 3)
  rw [toOption_eq_some_iff.mp happ] at hends
  have hadded : addition.procedure.Ends .store (world.at 3) trace (.ok app) added := hends
  have hsteps : ∀ step ∈ steps, step.1.attends? = some (.appInstance, "id-5") := by
    decide +kernel
  obtain ⟨events, hled, hattends⟩ := Runs.afterStopping_of
    (fun event => event.operation.attends? = some (.appInstance, "id-5"))
    (.start : Runs added [] added) (List.forall_mem_nil _) steps fun step hmem _ => hsteps step hmem
  have hruns : Runs added events edited := hled
  have hgroups : ((edited.store.contents.row? .instances "id-5").map
      fun app : Instance => app.groups.length) = some 2 := by
    decide +kernel
  -- what is left speaks of where the runs led, not of the runs
  clear hends hled
  clear_value edited added world
  have hkey : (ChildKind.table .appInstance).key app = "id-5" := hid
  have hresidue := removed_without_residue hsettled (.appInstance _ app) hadded hruns
    (hkey.symm ▸ hattends) (congrArg some howner) 6
  rw [hkey] at hresidue
  obtain ⟨hremoved, hcontents, -⟩ := hresidue
  have hok : ended.1 = .ok () := hremoved.mpr fun hempty => absurd hempty (by decide)
  exact ⟨Option.map_eq_some_iff.mp hgroups, hok, (hcontents hok).2⟩

/-- **A cluster whose id is the empty text stays**: it is added, and its removal is refused. -/
theorem removal_refused_of_empty_id :
    let start : World Store :=
      { store := .memory .empty, ids := ⟨fun n => if n = 0 then "acme" else "", 0⟩, clock := 0 }
    let world := start.afterAll
      [(.addOrganization { (default : NewOrganization) with name := "acme" }, 1)]
    let addition : Operation := .addCluster
      { (default : NewCluster) with
        organizationId := "acme", name := "edge", hostname := "edge.acme" }
    let answer := (addition.procedure.runWith .store (world.at 2)).1
    let ended := (Operation.remove .cluster "acme" "").procedure.runWith .store
      ((world.after addition 2).at 3)
    Settled world ∧
    answer.toOption.map (fun cluster : Cluster => (cluster.organizationId, cluster.clusterId)) =
      some ("acme", "") ∧
    (∃ violation, ended.1 = .error (.invalidArgument violation)) ∧
    ended.2.store.contents ≠ world.store.contents := by
  intro start world addition answer ended
  have hplain : ∀ n, Plain (start.ids.name n) := by
    intro n
    show Plain (if n = 0 then "acme" else "")
    split <;> decide
  refine ⟨(Settled.empty (Or.inl rfl) hplain).afterAll _, by decide +kernel, ?refused, ?left⟩
  case refused => exact ⟨.unset "cluster_id", by decide +kernel⟩
  case left =>
    -- the cluster is still there
    intro hsame
    have hfound : (ended.2.store.contents.row? .clusters "").isSome = true := by decide +kernel
    rw [hsame] at hfound
    exact absurd hfound (by decide +kernel)

end TenantRegistry
