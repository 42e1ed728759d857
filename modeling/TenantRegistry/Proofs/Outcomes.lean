/-
TenantRegistry/Proofs/Outcomes.lean

What operations on instances come to when no call is stopped.

An operation on an instance looks for what its request names, and then writes.
What it looks for is a function of storage, its `target`: an error, or the rows
that were found.  A run without stops then has one outcome for each target
(`runWith_addGroups` and its like), and it can be read off whether the operation
succeeds, what it answers and what it leaves.

Nothing is assumed about storage, but that rows stand under their own keys
(`Memory.Keyed`).
-/
import TenantRegistry.Operation
import TenantRegistry.Proofs.Operations.Removals
import TenantRegistry.Proofs.Validity

namespace TenantRegistry

open Procedure

/-! ### Ids to come -/

namespace IdSource

/-- The source after some ids were drawn. -/
def skip (ids : IdSource) (count : Nat) : IdSource := { ids with drawn := ids.drawn + count }

theorem skip_rest (ids : IdSource) (count : Nat) : ids.rest.skip count = ids.skip (count + 1) := by
  show (⟨ids.name, ids.drawn + 1 + count⟩ : IdSource) = ⟨ids.name, ids.drawn + (count + 1)⟩
  rw [Nat.add_right_comm, Nat.add_assoc]

end IdSource

/-! ### Runs that look -/

namespace Procedure

variable {σ α β : Type} {backend : Backend σ} {world : World σ}

/-- The outcome of a run that looks for a target, and finishes with what it found. -/
def outcome (world : World σ) (target : Except RegistryError α)
    (finish : α → Except RegistryError β × World σ) : Except RegistryError β × World σ :=
  match target with
  | .ok found => finish found
  | .error error => (.error error, world)

/-- **A look and then a run with an outcome have an outcome together.** -/
theorem runWith_bind_outcome {γ : Type} {look : Procedure α} {f : α → Procedure β}
    {seen : Except RegistryError α} {target : α → Except RegistryError γ}
    {finish : γ → Except RegistryError β × World σ}
    (hlook : look.runWith backend world = (seen, world))
    (hrest : ∀ value, seen = .ok value →
      (f value).runWith backend world = outcome world (target value) finish) :
    (look >>= f).runWith backend world = outcome world (seen >>= target) finish := by
  cases seen with
  | error error => exact runWith_bind_error hlook
  | ok value =>
    rw [runWith_bind_ok hlook]
    exact hrest value rfl

/-- **A run over storage of either sort comes to what it comes to in memory.** -/
theorem runWith_of_contents {procedure : Procedure α} {world : World Store}
    (hfaithful : world.store.Faithful) {result : Except RegistryError α} {after : World Memory}
    (h : procedure.runWith .memory world.contents = (result, after)) :
    (procedure.runWith .store world).1 = result ∧
      (procedure.runWith .store world).2.contents = after ∧
      (procedure.runWith .store world).2.store.Faithful := by
  obtain ⟨hanswer, hcontents, hafter⟩ := Program.run_contents procedure.run hfaithful
  rw [runWith] at h
  rw [h] at hanswer hcontents
  exact ⟨hanswer, hcontents, hafter⟩

/-- **A run that looks for a target comes to its error and changes nothing, or finishes.** -/
theorem runWith_of_outcome {γ : Type} {procedure : Procedure α} {world : World Store}
    (hfaithful : world.store.Faithful) {target : Except RegistryError γ}
    {finish : γ → Except RegistryError α × World Memory}
    (h : procedure.runWith .memory world.contents = outcome world.contents target finish) :
    (procedure.runWith .store world).2.store.Faithful ∧
      (∀ error, target = .error error → (procedure.runWith .store world).1 = .error error ∧
        (procedure.runWith .store world).2.store.contents = world.store.contents) ∧
      ∀ found, target = .ok found → (procedure.runWith .store world).1 = (finish found).1 ∧
        (procedure.runWith .store world).2.store.contents = (finish found).2.store := by
  obtain ⟨hanswer, hcontents, hafter⟩ :=
    runWith_of_contents hfaithful h
  have hstore := congrArg World.store hcontents
  refine ⟨hafter, ?_, ?_⟩
  · rintro error rfl
    exact ⟨hanswer, hstore⟩
  · rintro found rfl
    exact ⟨hanswer, hstore⟩

/-- A rule that a request keeps, or the error that it does not. -/
def valid (result : Except Violation Unit) : Except RegistryError Unit :=
  result.mapError RegistryError.invalidArgument

theorem valid_eq_ok {result : Except Violation Unit} : valid result = .ok () ↔ result = .ok () := by
  cases result with
  | error violation => exact iff_of_false nofun nofun
  | ok value => exact iff_of_true rfl rfl

theorem runWith_validate (result : Except Violation Unit) (world : World σ) :
    (validate result).runWith backend world = (valid result, world) := rfl

theorem runWith_freshId (world : World σ) :
    freshId.runWith backend world =
      (.ok world.ids.next, { world with ids := world.ids.rest }) := rfl

theorem runWith_freshIds (count : Nat) (world : World σ) :
    (freshIds count).runWith backend world =
      (.ok (world.ids.take count), { world with ids := world.ids.skip count }) := by
  induction count generalizing world with
  | zero => rfl
  | succ count ih =>
    rw [freshIds, runWith_bind_ok (runWith_freshId world), runWith_bind_ok (ih _),
      ← IdSource.skip_rest]
    rfl

end Procedure

/-! ### What an organization finds -/

namespace Memory

variable (memory : Memory)

/-- Whether an organization lists a child, or the error that it does not. -/
def require (kind : ChildKind) (organizationId childId : String) : Except RegistryError Unit :=
  if memory.hasChild organizationId kind childId then .ok ()
  else .error (.notFound (.child kind childId organizationId))

/-- Whether an organization is stored, or the error that it is not. -/
def requireOrganization (organizationId : String) : Except RegistryError Unit :=
  if (memory.row? .organizations organizationId).isSome then .ok ()
  else .error (.notFound (.organization organizationId))

/-- The row under a key, or the error that there is none. -/
def find (table : Table) (key : String) : Except RegistryError table.Row :=
  (memory.row? table key).elim (.error (.notFound (.row table key))) .ok

/-- The row that an organization fetches, or the error that it cannot. -/
def fetch (kind : ChildKind) (organizationId childId : String) : Except RegistryError kind.Row := do
  memory.require kind organizationId childId
  let row ← memory.find kind.table childId
  let owner := kind.table.owner? row
  if owner = some organizationId then return row
  else .error (.internal (.foreignOwner kind (kind.table.key row) organizationId owner))

/-- Whether an organization can remove a child, or the error that it cannot. -/
def removable (kind : ChildKind) (organizationId childId : String) : Except RegistryError Unit := do
  memory.require kind organizationId childId
  let _ ← memory.find kind.table childId
  return ()

variable {memory} {kind : ChildKind} {o c : String}

theorem require_eq_ok : memory.require kind o c = .ok () ↔ memory.hasChild o kind c = true := by
  rw [require]
  split
  · next hlisted => exact iff_of_true rfl hlisted
  · next hunlisted => exact iff_of_false nofun hunlisted

theorem requireOrganization_eq_ok :
    memory.requireOrganization o = .ok () ↔ memory.row? .organizations o ≠ none := by
  rw [requireOrganization, ← Option.isSome_iff_ne_none]
  split
  · next hthere => exact iff_of_true rfl hthere
  · next habsent => exact iff_of_false nofun habsent

theorem find_eq_ok {table : Table} {key : String} {row : table.Row} :
    memory.find table key = .ok row ↔ memory.row? table key = some row := by
  rw [find]
  cases memory.row? table key with
  | none => exact iff_of_false nofun nofun
  | some found =>
    exact (Except.ok.injEq found row).to_iff.trans (Option.some.injEq found row).to_iff.symm

/-- **What is fetched is listed, present and owned.** -/
theorem fetch_eq_ok {row : kind.Row} :
    memory.fetch kind o c = .ok row ↔ memory.Fetched kind o c row := by
  constructor
  · intro h
    obtain ⟨⟨⟩, hlisted, h⟩ := bind_eq_ok_iff.mp h
    obtain ⟨found, hpresent, h⟩ := bind_eq_ok_iff.mp h
    dsimp only at h
    split at h
    · next howner =>
      cases h
      exact ⟨require_eq_ok.mp hlisted, find_eq_ok.mp hpresent, howner⟩
    · cases h
  · rintro ⟨hlisted, hpresent, howner⟩
    rw [fetch, require_eq_ok.mpr hlisted, find_eq_ok.mpr hpresent]
    exact if_pos howner

/-- What is removed is listed and present, whoever owns it. -/
theorem removable_eq_ok : memory.removable kind o c = .ok () ↔
    memory.hasChild o kind c = true ∧ ∃ row, memory.row? kind.table c = some row := by
  constructor
  · intro h
    obtain ⟨⟨⟩, hlisted, h⟩ := bind_eq_ok_iff.mp h
    obtain ⟨row, hpresent, -⟩ := bind_eq_ok_iff.mp h
    exact ⟨require_eq_ok.mp hlisted, row, find_eq_ok.mp hpresent⟩
  · rintro ⟨hlisted, row, hpresent⟩
    rw [removable, require_eq_ok.mpr hlisted, find_eq_ok.mpr hpresent]
    rfl

end Memory

/-! ### Looks and removals -/

namespace Procedure

variable (world : World Memory)

theorem runWith_find (table : Table) (key : String) :
    (perform (.get table key)).runWith .memory world = (world.store.find table key, world) := by
  show ((world.store.perform (.get table key)).1.mapError RegistryError.ofStore, world) = _
  rw [Memory.perform_get, Memory.find]
  cases world.store.row? table key <;> rfl

theorem runWith_requireOrganization (o : String) :
    (requireOrganization o).runWith .memory world = (world.store.requireOrganization o, world) := by
  have hlook : (perform (.contains .organizations o)).runWith .memory world =
      (.ok (world.store.row? .organizations o).isSome, world) := rfl
  rw [requireOrganization, runWith_bind_ok hlook, Memory.requireOrganization]
  cases (world.store.row? .organizations o).isSome <;> rfl

end Procedure

namespace ChildKind

variable (kind : ChildKind) (o c : String) (world : World Memory)

theorem runWith_require :
    (kind.require o c).runWith .memory world = (world.store.require kind o c, world) := by
  have hlook : (perform (.hasChild o kind c)).runWith .memory world =
      (.ok (world.store.hasChild o kind c), world) := rfl
  rw [ChildKind.require, runWith_bind_ok hlook, Memory.require]
  cases world.store.hasChild o kind c <;> rfl

theorem runWith_get :
    (kind.get o c).runWith .memory world = (world.store.fetch kind o c, world) := by
  have hrun : (kind.get o c).runWith .memory world =
      outcome world (world.store.fetch kind o c) fun row => (.ok row, world) := by
    refine runWith_bind_outcome (kind.runWith_require o c world) fun _ _ => ?_
    refine runWith_bind_outcome (runWith_find world kind.table c) fun row _ => ?_
    rw [ChildKind.checkOwner]
    dsimp only
    split
    · rfl
    · rfl
  rw [hrun]
  cases world.store.fetch kind o c <;> rfl

/-- What is fetched is got, over storage of either sort. -/
theorem runWith_get_of_fetched {kind : ChildKind} {o c : String} {row : kind.Row}
    {world : World Store} (hfaithful : world.store.Faithful)
    (h : world.store.contents.Fetched kind o c row) :
    ((Operation.get kind o c).procedure.runWith .store world).1 = .ok row := by
  rw [runWith_contents _ hfaithful]
  show ((kind.get o c).runWith .memory world.contents).1 = _
  rw [runWith_get]
  exact Memory.fetch_eq_ok.mpr h

/-- **A child that can be removed is gone, and its entry too.** -/
theorem runWith_remove :
    (kind.remove o c).runWith .memory world =
      outcome world (world.store.removable kind o c) fun _ =>
        (.ok (),
          { world with store := (world.store.drop kind.table c).leave o kind c }) := by
  refine runWith_bind_outcome (kind.runWith_require o c world) fun _ hrequired => ?_
  have hlisted := Memory.require_eq_ok.mp hrequired
  show (perform (.remove kind.table c) >>= fun _ => perform (.removeChild o kind c)).runWith
    .memory world = _
  rw [Memory.find]
  cases hrow : world.store.row? kind.table c with
  | none =>
    have hrefused : Backend.memory.perform (.remove kind.table c) world.store =
        (.error (.notFound (.row kind.table c)), world.store) := by
      show Memory.perform (.remove kind.table c) world.store = _
      rw [Memory.perform_remove, hrow]
      rfl
    exact runWith_bind_error (runWith_perform_error hrefused)
  | some row =>
    have hremoved : Backend.memory.perform (.remove kind.table c) world.store =
        (.ok (), world.store.drop kind.table c) := by
      show Memory.perform (.remove kind.table c) world.store = _
      rw [Memory.perform_remove, hrow]
      rfl
    have hleft : Backend.memory.perform (.removeChild o kind c) (world.store.drop kind.table c) =
        (.ok (), (world.store.drop kind.table c).leave o kind c) := by
      show Memory.perform (.removeChild o kind c) _ = _
      rw [Memory.perform_removeChild]
      exact if_pos hlisted
    rw [runWith_bind_ok (runWith_perform hremoved)]
    exact runWith_perform hleft

/-- A child that is listed and not there cannot be removed. -/
theorem runWith_remove_of_absent (kind : ChildKind) {o c : String} (world : World Memory)
    (hlisted : world.store.hasChild o kind c = true)
    (habsent : world.store.row? kind.table c = none) :
    (kind.remove o c).runWith .memory world = (.error (.notFound (.row kind.table c)), world) := by
  have hremovable : world.store.removable kind o c = .error (.notFound (.row kind.table c)) := by
    rw [Memory.removable, Memory.require_eq_ok.mpr hlisted, Memory.find, habsent]
    rfl
  rw [runWith_remove, hremovable]
  rfl

/-- **A row under a free key is added, or deleted again if its key is listed already.** -/
theorem runWith_add {kind : ChildKind} {o : String} {row : kind.Row}
    {world : World Memory} (ho : world.store.row? .organizations o ≠ none)
    (habsent : world.store.row? kind.table (kind.table.key row) = none) :
    (kind.add o row).runWith .memory world =
      if world.store.hasChild o kind (kind.table.key row) then
        (.error (.alreadyExists (.child kind (kind.table.key row) o)), world)
      else (.ok (), { world with
        store := (world.store.put kind.table row).enter o kind (kind.table.key row) }) := by
  let stored : World Memory := { world with store := world.store.put kind.table row }
  have hadd : (perform (.add kind.table row)).runWith .memory world = (.ok (), stored) := by
    have hadded : Memory.perform (.add kind.table row) world.store =
        (.ok (), world.store.put kind.table row) := by
      rw [Memory.perform_add, habsent]
      rfl
    exact runWith_perform hadded
  -- the organization is still there, so that only an entry can be in the way
  have hthere : ¬ (stored.store.row? .organizations o).isNone = true := by
    rw [Memory.row?_put_of_ne _ _ kind.table_ne_organizations.symm, Option.isNone_iff_eq_none]
    exact ho
  by_cases hlisted : world.store.hasChild o kind (kind.table.key row) = true
  · have henter : (perform (.addChild o kind (kind.table.key row))).runWith .memory stored =
        (.error (.alreadyExists (.child kind (kind.table.key row) o)), stored) := by
      have hrefused : Backend.memory.perform (.addChild o kind (kind.table.key row)) stored.store =
          (.error (.alreadyExists (.child kind (kind.table.key row) o)), stored.store) := by
        show Memory.perform (.addChild o kind (kind.table.key row)) stored.store = _
        rw [Memory.perform_addChild, if_neg hthere]
        exact if_pos hlisted
      exact runWith_perform_error hrefused
    have hremove : (perform (.remove kind.table (kind.table.key row))).runWith .memory stored =
        (.ok (), world) := by
      have hremoved : Memory.perform (.remove kind.table (kind.table.key row)) stored.store =
          (.ok (), world.store) := by
        rw [Memory.perform_remove, Memory.row?_put_of_key_eq rfl, Memory.drop_put habsent]
        rfl
      exact runWith_perform hremoved
    rw [if_pos hlisted]
    exact runWith_dualWrite_error hadd henter hremove
  · have henter : (perform (.addChild o kind (kind.table.key row))).runWith .memory stored =
        (.ok (), { stored with store := stored.store.enter o kind (kind.table.key row) }) := by
      have hentered : Memory.perform (.addChild o kind (kind.table.key row)) stored.store =
          (.ok (), stored.store.enter o kind (kind.table.key row)) := by
        rw [Memory.perform_addChild, if_neg hthere]
        exact if_neg hlisted
      exact runWith_perform hentered
    rw [if_neg hlisted]
    exact runWith_dualWrite_ok hadd henter

end ChildKind

/-! ### Operations on instances -/

namespace Instances

variable {world : World Memory}

/-- Whether an instance was made from a descriptor, or the error that it was not. -/
def madeFrom (app : Instance) (descriptorId : String) : Except RegistryError Unit :=
  valid (ensure (app.descriptorId = descriptorId)
    (.otherDescriptor app.instanceId app.descriptorId descriptorId))

theorem madeFrom_eq_ok {app : Instance} {descriptorId : String} :
    madeFrom app descriptorId = .ok () ↔ app.descriptorId = descriptorId := by
  rw [madeFrom, valid_eq_ok, ensure]
  split
  · next heq => exact iff_of_true rfl heq
  · next hne =>
    refine iff_of_false (fun h => ?_) hne
    cases h

/-- The document that was fetched is replaced by another, under the next revision. -/
theorem runWith_store {app edited : Instance}
    (hrow : world.store.row? .instances app.instanceId = some app)
    (hkey : edited.instanceId = app.instanceId) (hrevision : edited.revision = app.revision) :
    (store edited).runWith .memory world =
      (.ok { edited with revision := app.revision + 1 },
        { world with
          store := world.store.put .instances { edited with revision := app.revision + 1 } }) := by
  have hreplaced : Memory.perform (.replace .instances edited edited.revision) world.store =
      (.ok { edited with revision := app.revision + 1 },
        world.store.put .instances { edited with revision := app.revision + 1 }) := by
    have hcurrent : world.store.row? .instances (Table.key .instances edited) = some app := by
      show world.store.row? .instances edited.instanceId = some app
      rw [hkey, hrow]
    rw [Memory.perform_replace, hcurrent, hrevision]
    exact if_pos rfl
  exact runWith_perform hreplaced

/-- What adding group instances looks for: an instance, and a group of its snapshot. -/
def groupTarget (request : NewGroupInstances) (memory : Memory) :
    Except RegistryError (Instance × ServiceGroup) := do
  valid request.validate
  memory.require .descriptor request.organizationId request.descriptorId
  let app : Instance ← memory.fetch .appInstance request.organizationId request.instanceId
  madeFrom app request.descriptorId
  let snapshot : Snapshot ← memory.find .snapshots request.instanceId
  match snapshot.group? request.serviceGroupId with
  | none => .error (.notFound (.serviceGroup request.serviceGroupId request.instanceId))
  | some group => .ok (app, group)

theorem runWith_addGroups (hkeyed : world.store.Keyed) (request : NewGroupInstances) :
    (addGroups request).runWith .memory world =
      outcome world (groupTarget request world.store) fun (app, group) =>
        let created := (world.ids.take request.replicaCount.toNat).map
          (newGroup group request.replicaCount)
        (.ok created,
          { store := world.store.put .instances
              { app with groups := app.groups ++ created, revision := app.revision + 1 }
            ids := world.ids.skip request.replicaCount.toNat
            clock := world.clock }) := by
  refine runWith_bind_outcome (runWith_validate _ _) fun _ _ => ?_
  refine runWith_bind_outcome (ChildKind.runWith_require _ _ _ _) fun _ _ => ?_
  refine runWith_bind_outcome (ChildKind.runWith_get _ _ _ _) fun app happ => ?_
  refine runWith_bind_outcome (runWith_validate _ _) fun _ _ => ?_
  refine runWith_bind_outcome (runWith_find _ _ _) fun snapshot _ => ?_
  have hrow := hkeyed.self (Memory.fetch_eq_ok.mp happ).present
  dsimp only
  cases snapshot.group? request.serviceGroupId with
  | none => rfl
  | some group =>
    rw [runWith_bind_ok (runWith_freshIds _ _)]
    exact runWith_bind_ok (runWith_store hrow rfl rfl)

/-- What adding a service instance looks for: an instance, and a service of the live descriptor. -/
def serviceTarget (request : NewServiceInstance) (memory : Memory) :
    Except RegistryError (Instance × Service) := do
  valid request.validate
  let descriptor : Descriptor ←
    memory.fetch .descriptor request.organizationId request.descriptorId
  let app : Instance ← memory.fetch .appInstance request.organizationId request.instanceId
  madeFrom app request.descriptorId
  match (descriptor.group? request.serviceGroupId).bind (·.service? request.serviceId) with
  | none =>
    .error (.notFound (.service request.serviceId request.serviceGroupId request.descriptorId))
  | some service => .ok (app, service)

/-- The instance that a service instance is added to is the one that the request names. -/
theorem row?_of_serviceTarget {request : NewServiceInstance} {memory : Memory} {app : Instance}
    {service : Service} (h : serviceTarget request memory = .ok (app, service)) :
    memory.row? .instances request.instanceId = some app := by
  obtain ⟨_, -, h⟩ := bind_eq_ok_iff.mp h
  obtain ⟨descriptor, -, h⟩ := bind_eq_ok_iff.mp h
  obtain ⟨found, hfound, h⟩ := bind_eq_ok_iff.mp h
  obtain ⟨_, -, h⟩ := bind_eq_ok_iff.mp h
  split at h
  · cases h
  · cases h
    exact (Memory.fetch_eq_ok.mp hfound).present

/-- An id is drawn before the group instance is looked for. -/
theorem runWith_addService (hkeyed : world.store.Keyed) (request : NewServiceInstance) :
    (addService request).runWith .memory world =
      outcome world (serviceTarget request world.store) fun (app, service) =>
        let created := newService service world.ids.next
        match app.groupOf? request.serviceGroupId request.groupInstanceId with
        | none =>
          (.error (.notFound (.groupInstanceOf request.groupInstanceId request.serviceGroupId
            request.instanceId)), { world with ids := world.ids.rest })
        | some _ =>
          (.ok created,
            { store := world.store.put .instances
                { app.editGroupOf request.serviceGroupId request.groupInstanceId
                    (·.addService created) with
                  revision := app.revision + 1 }
              ids := world.ids.rest
              clock := world.clock }) := by
  refine runWith_bind_outcome (runWith_validate _ _) fun _ _ => ?_
  refine runWith_bind_outcome (ChildKind.runWith_get _ _ _ _) fun descriptor _ => ?_
  refine runWith_bind_outcome (ChildKind.runWith_get _ _ _ _) fun app happ => ?_
  refine runWith_bind_outcome (runWith_validate _ _) fun _ _ => ?_
  have hrow := hkeyed.self (Memory.fetch_eq_ok.mp happ).present
  dsimp only
  cases (descriptor.group? request.serviceGroupId).bind (·.service? request.serviceId) with
  | none => rfl
  | some service =>
    rw [runWith_bind_ok (runWith_freshId _)]
    dsimp only [outcome]
    cases app.groupOf? request.serviceGroupId request.groupInstanceId with
    | none => rfl
    | some group => exact runWith_bind_ok (runWith_store hrow rfl rfl)

/-- **A service instance that is answered has joined its group instance.** -/
theorem addService_joins (hkeyed : world.store.Keyed) {request : NewServiceInstance}
    (h : ((addService request).runWith .memory world).1.isOk = true) :
    ∃ app service group, serviceTarget request world.store = .ok (app, service) ∧
      app.groupOf? request.serviceGroupId request.groupInstanceId = some group ∧
      ((addService request).runWith .memory world).2.store = world.store.put .instances
        { app.editGroupOf request.serviceGroupId request.groupInstanceId
            (·.addService (newService service world.ids.next)) with
          revision := app.revision + 1 } := by
  rw [runWith_addService hkeyed] at h ⊢
  cases htarget : serviceTarget request world.store with
  | error error =>
    rw [htarget] at h
    cases h
  | ok found =>
    obtain ⟨app, service⟩ := found
    rw [htarget] at h
    dsimp only [outcome] at h ⊢
    cases hgroup : app.groupOf? request.serviceGroupId request.groupInstanceId with
    | none =>
      rw [hgroup] at h
      cases h
    | some group => exact ⟨app, service, group, rfl, hgroup, rfl⟩

/-- What a report looks for: an instance with the service instance that it is about. -/
def reportTarget (request : StatusReport) (memory : Memory) : Except RegistryError Instance := do
  valid request.validate
  let app : Instance ← memory.fetch .appInstance request.organizationId request.instanceId
  match app.group? request.groupInstanceId with
  | none => .error (.internal (.noGroupInstance request.instanceId request.groupInstanceId))
  | some group =>
    match group.service? request.serviceInstanceId with
    | none =>
      .error (.internal (.noServiceInstance request.groupInstanceId request.serviceInstanceId))
    | some _ => .ok app

theorem runWith_report (hkeyed : world.store.Keyed) (request : StatusReport) :
    (report request).runWith .memory world =
      outcome world (reportTarget request world.store) fun app =>
        let reported : Instance :=
          { app.editGroup request.groupInstanceId fun group =>
              (group.editService request.serviceInstanceId request.apply).withDerivedStatus with
            revision := app.revision + 1 }
        (.ok reported, { world with store := world.store.put .instances reported }) := by
  refine runWith_bind_outcome (runWith_validate _ _) fun _ _ => ?_
  refine runWith_bind_outcome (ChildKind.runWith_get _ _ _ _) fun app happ => ?_
  have hrow := hkeyed.self (Memory.fetch_eq_ok.mp happ).present
  dsimp only
  cases app.group? request.groupInstanceId with
  | none => rfl
  | some group =>
    dsimp only
    cases group.service? request.serviceInstanceId with
    | none => rfl
    | some service => exact runWith_store hrow rfl rfl

/-- What a count of replicas looks for: an instance, and one of its group instances. -/
def replicaTarget (organizationId instanceId groupInstanceId : String) (memory : Memory) :
    Except RegistryError (Instance × GroupInstance) := do
  valid (ensureIdentifier "organization_id" organizationId)
  valid (ensureIdentifier "app_instance_id" instanceId)
  valid (ensureIdentifier "service_group_instance_id" groupInstanceId)
  let app : Instance ← memory.fetch .appInstance organizationId instanceId
  match app.group? groupInstanceId with
  | none => .error (.notFound (.groupInstance groupInstanceId instanceId))
  | some group => .ok (app, group)

theorem runWith_setReplicas (hkeyed : world.store.Keyed) (o c g : String)
    (available unavailable : UInt32) :
    (setReplicas o c g available unavailable).runWith .memory world =
      outcome world (replicaTarget o c g world.store) fun (app, group) =>
        let count (group : GroupInstance) : GroupInstance :=
          { group with replicas := { group.replicas with available, unavailable } }
        (.ok (count group),
          { world with
            store := world.store.put .instances
              { app.editGroup g count with revision := app.revision + 1 } }) := by
  refine runWith_bind_outcome (runWith_validate _ _) fun _ _ => ?_
  refine runWith_bind_outcome (runWith_validate _ _) fun _ _ => ?_
  refine runWith_bind_outcome (runWith_validate _ _) fun _ _ => ?_
  refine runWith_bind_outcome (ChildKind.runWith_get _ _ _ _) fun app happ => ?_
  have hrow := hkeyed.self (Memory.fetch_eq_ok.mp happ).present
  dsimp only
  cases app.group? g with
  | none => rfl
  | some group => exact runWith_bind_ok (runWith_store hrow rfl rfl)

/-- A deletion that nobody waits for leaves no row, whether there was one or not. -/
theorem runWith_attempt_remove (table : Table) (key : String) (world : World Memory) :
    (attempt (.remove table key)).runWith .memory world =
      (.ok (world.store.perform (.remove table key)).1,
        { world with store := world.store.drop table key }) :=
  runWith_attempt (Prod.ext rfl (world.store.perform_remove_snd table key))

/-- What the removal of an instance looks for. -/
def removalTarget (organizationId instanceId : String) (memory : Memory) :
    Except RegistryError Unit := do
  valid (ensureIdentifier "organization_id" organizationId)
  valid (ensureIdentifier "app_instance_id" instanceId)
  memory.removable .appInstance organizationId instanceId

theorem runWith_remove (o c : String) :
    (remove o c).runWith .memory world =
      outcome world (removalTarget o c world.store) fun _ =>
        (.ok (),
          { world with
            store := (((world.store.drop .instances c).leave o .appInstance c).drop .snapshots
              c).drop .parameters c }) := by
  refine runWith_bind_outcome (runWith_validate _ _) fun _ _ => ?_
  refine runWith_bind_outcome (runWith_validate _ _) fun _ _ => ?_
  have hremove := ChildKind.appInstance.runWith_remove o c world
  cases htarget : world.store.removable .appInstance o c with
  | error error =>
    rw [htarget] at hremove
    exact runWith_bind_error hremove
  | ok removed =>
    rw [htarget] at hremove
    rw [runWith_bind_ok hremove]
    rw [runWith_bind_ok (runWith_attempt_remove .snapshots c _),
      runWith_bind_ok (runWith_attempt_remove .parameters c _)]
    rfl

end Instances

end TenantRegistry
