/-
TenantRegistry/Proofs/Snapshots.lean

What an instance was made with stays as it is.

An instance is made with a snapshot of its descriptor, and with parameters if
any were given.  As long as the instance is stored both stay what they were,
whatever else is done, whatever calls are stopped, and even when its id is drawn
again (`Effect.copy_kept`): the row of an instance is written first and deleted
first, so nobody who is about to write or to delete its copies gets past it.

To be shown the snapshot takes more than that it is stored, for the instance has
to be listed too.  Its entry in the index is a text, and another entry with the
same text may be deleted, unless the id of the instance is plain
(`Effect.entry_kept`, `snapshot_hidden_by_node`).

Main result: `snapshot_stays`.
-/
import TenantRegistry.Proofs.Outcomes
import TenantRegistry.Proofs.Runs

namespace TenantRegistry

open Procedure

variable {world world' : World Memory} {trace : List Attempt} {operation : Operation}
  {succeeded : Bool} {i : String}

/-! ### What a new instance comes with -/

/-- Writes that all succeed are made one after another. -/
theorem ends_writeAll_cons_ok {log : UndoLog Program RegistryError}
    {write : Write Program RegistryError} {rest : List (Write Program RegistryError)}
    (h : (log.writeAll (write :: rest)).Ends .memory world trace (.ok ()) world') :
    ∃ between trace₁ trace₂, write.write.Ends .memory world trace₁ (.ok ()) between ∧
      (UndoLog.writeAll ⟨write.undo :: log.undos⟩ rest).Ends .memory between trace₂ (.ok ())
        world' := by
  rcases ends_writeAll_cons h with ⟨error, _, _, _, -, -, hfailed, -⟩ |
    ⟨between, t₁, t₂, hwrite, hrest, -⟩
  · cases hfailed
  · exact ⟨between, t₁, t₂, hwrite, hrest⟩

/-- An instance that was made with all that comes with it: no place that its writes go to was
taken. -/
structure Instances.Created (before after : Memory) (app : Instance) (snapshot : Snapshot)
    (parameters : Option InstanceParameters) : Prop where
  absent : before.row? .instances app.instanceId = none
  unlisted : before.hasChild app.organizationId .appInstance app.instanceId = false
  no_snapshot : before.row? .snapshots snapshot.instanceId = none
  no_parameters : ∀ given ∈ parameters, before.row? .parameters given.instanceId = none
  store : after = (before.remains app snapshot true true true).putGiven .parameters parameters

/-- The writes that make an instance, when all of them succeed. -/
theorem Instances.ends_creation_ok {app : Instance} {snapshot : Snapshot}
    {parameters : Option InstanceParameters}
    (h : (UndoLog.empty.writeAll (creation app snapshot parameters)).Ends .memory world trace
      (.ok ()) world') :
    Created world.store world'.store app snapshot parameters := by
  obtain ⟨w₁, _, _, hrow, h⟩ := ends_writeAll_cons_ok h
  obtain ⟨w₂, _, _, hentry, h⟩ := ends_writeAll_cons_ok h
  obtain ⟨w₃, _, _, hcopy, h⟩ := ends_writeAll_cons_ok h
  obtain ⟨habsent, hrow⟩ := ends_add_row_ok hrow
  obtain ⟨hunlisted, hentry⟩ := ends_addChild_ok hentry
  obtain ⟨hno_snapshot, hcopy⟩ := ends_add_row_ok hcopy
  have hstore : w₃.store = world.store.remains app snapshot true true true := by
    rw [hcopy, hentry, hrow]
    rfl
  -- each write finds its own place as it was before the others
  rw [hrow] at hunlisted
  rw [hentry, hrow] at hno_snapshot
  cases parameters with
  | none =>
    cases h
    exact ⟨habsent, hunlisted, hno_snapshot, nofun, hstore⟩
  | some given =>
    obtain ⟨w₄, _, _, hgiven, h⟩ := ends_writeAll_cons_ok h
    obtain ⟨hno_parameters, hgiven⟩ := ends_add_row_ok hgiven
    cases h
    rw [hstore] at hno_parameters hgiven
    refine ⟨habsent, hunlisted, hno_snapshot, ?_, hgiven⟩
    rintro _ ⟨⟩
    exact hno_parameters

/-- **An instance that is answered was made with all that comes with it.** -/
theorem Instances.ends_add_ok {request : NewInstance} {app : Instance}
    (h : (Instances.add request).Ends .memory world trace (.ok app) world') :
    request.validate = .ok () ∧ app.organizationId = request.organizationId ∧
      world.ids.Issued world'.ids app.instanceId ∧
      ∃ (snapshot : Snapshot) (parameters : Option InstanceParameters),
        snapshot.instanceId = app.instanceId ∧
        (∀ given ∈ parameters, given.instanceId = app.instanceId) ∧
        Created world.store world'.store app snapshot parameters := by
  obtain ⟨⟨⟩, w₁, _, _, hvalid, h, -⟩ := ends_bind_ok h
  obtain ⟨⟨⟩, w₂, _, _, hrequired, h, -⟩ := ends_bind_ok h
  obtain ⟨descriptor, w₃, _, _, hget, h, -⟩ := ends_bind_ok h
  have hfound := (((reads_validate _).looked hvalid).trans
    ((reads_requireOrganization _).looked hrequired)).trans
    ((ChildKind.descriptor.reads_get _ _).looked hget)
  -- the id is drawn before the last looks
  have h := ends_freshId_bind h
  obtain ⟨groups, w₄, _, _, hgroups, h, -⟩ := ends_bind_ok h
  obtain ⟨snapshot, w₅, _, _, hcheck, h, -⟩ := ends_bind_ok h
  have h := ends_now_bind h
  obtain ⟨⟨⟩, w₆, _, _, hwrites, h, -⟩ := ends_bind_ok h
  obtain ⟨-, happ, rfl⟩ := ends_pure h
  cases happ
  have hlater := ((reads_listByOwner _ _).looked hgroups).trans ((reads_check _).looked hcheck)
  have hissued : w₃.ids.Issued world'.ids w₃.ids.next :=
    IdSource.issued_next (hlater.ids.trans hwrites.extends.1)
  obtain ⟨-, hsnapshot, -⟩ := ends_check hcheck
  have hcreated := ends_creation_ok hwrites
  rw [hlater.store, hfound.store] at hcreated
  refine ⟨ends_validate_ok hvalid, rfl, hissued.mono hfound.ids, snapshot, _,
    (snapshot_ok hsnapshot.symm).1, ?_, hcreated⟩
  intro given hgiven
  obtain ⟨_, -, rfl⟩ := Option.map_eq_some_iff.mp hgiven
  rfl

/-- **What is there when an instance was just made**: the instance, listed and with a snapshot. -/
theorem Instances.made {request : NewInstance} {app : Instance}
    (h : (Instances.add request).Ends .memory world trace (.ok app) world') :
    Plain app.organizationId ∧ world'.store.row? .instances app.instanceId ≠ none ∧
      world'.store.hasChild app.organizationId .appInstance app.instanceId = true ∧
      ∃ snapshot : Snapshot, world'.store.row? .snapshots app.instanceId = some snapshot := by
  obtain ⟨hvalid, howner, -, snapshot, parameters, hkey, -, hcreated⟩ := ends_add_ok h
  have hplain := plain_of_ensureIdentifier (both_eq_ok_iff.mp hvalid).1
  have hrow : (world.store.remains app snapshot true true true).row? .instances app.instanceId =
      some app := by
    show ((world.store.put .instances app).enter _ _ _ |>.put .snapshots snapshot).row? .instances _
      = _
    rw [Memory.row?_put_of_ne _ _ (by decide), Memory.row?_enter, Memory.row?_put_self]
    exact if_pos rfl
  have hlisted : (world.store.remains app snapshot true true true).hasChild app.organizationId
      .appInstance app.instanceId = true := Memory.hasChild_enter_iff.mpr (Or.inl rfl)
  have hcopy : (world.store.remains app snapshot true true true).row? .snapshots app.instanceId =
      some snapshot := by
    show (Memory.put _ .snapshots snapshot).row? .snapshots _ = _
    rw [Memory.row?_put_self]
    exact if_pos hkey.symm
  rw [← howner] at hplain
  rw [hcreated.store]
  refine ⟨hplain, ?stored, ?listed, snapshot, ?copied⟩
  case stored =>
    rw [Memory.row?_putGiven_of_ne _ _ (by decide), hrow]
    exact Option.some_ne_none app
  case listed =>
    rw [Memory.hasChild, Memory.children_putGiven]
    exact hlisted
  case copied => rw [Memory.row?_putGiven_of_ne _ _ (by decide), hcopy]

/-! ### What one operation keeps -/

/-- The tables of what comes with an instance. -/
def Table.Accompanying (table : Table) : Prop := table = .snapshots ∨ table = .parameters

/-- No operation edits what came with an instance. -/
theorem Operation.edits?_ne {table edited : Table} (htable : table.Accompanying)
    (h : operation.edits? = some edited) : table ≠ edited := by
  rintro rfl
  rcases htable with rfl | rfl <;> cases operation <;> cases h

/-- What is registered by itself is not what comes with an instance. -/
theorem ChildKind.table_ne {table : Table} (htable : table.Accompanying) (kind : ChildKind) :
    table ≠ kind.table := by
  rcases htable with rfl | rfl
  · exact kind.table_ne_snapshots.symm
  · exact kind.table_ne_parameters.symm

/-- **An operation that leaves an instance stored leaves what came with it as it is.** -/
theorem Effect.copy_kept (h : Effect world world' trace operation succeeded) {table : Table}
    (htable : table.Accompanying) (hthere : world.store.row? .instances i ≠ none)
    (hstill : world'.store.row? .instances i ≠ none) :
    world'.store.row? table i = world.store.row? table i := by
  -- an instance that is about to be made is another one
  have hother : ∀ {j : String}, world.store.row? .instances j = none → i ≠ j := by
    rintro j habsent rfl
    exact hthere habsent
  cases h with
  | unchanged store => rw [store]
  | founded _ _ _ store =>
    have hne : table ≠ .organizations := by rcases htable with rfl | rfl <;> decide
    rw [store, Memory.row?_put_of_ne _ _ hne]
  | edited _ _ edits _ _ store =>
    rw [store, Memory.row?_put_of_ne _ _ (Operation.edits?_ne htable edits)]
  | registered _ _ _ _ store =>
    rw [store, Memory.row?_enter, Memory.row?_put_of_ne _ _ (ChildKind.table_ne htable _)]
  | stored _ _ _ _ store =>
    rw [store, Memory.row?_put_of_ne _ _ (ChildKind.table_ne htable _)]
  | removed _ _ _ _ _ store =>
    rw [store, Memory.row?_leave, Memory.row?_drop_of_ne _ _ (ChildKind.table_ne htable _)]
  | dropped _ _ _ _ _ _ store =>
    rw [store, Memory.row?_drop_of_ne _ _ (ChildKind.table_ne htable _)]
  | unlisted _ _ _ store => rw [store, Memory.row?_leave]
  | @removedInstance o' i' app copy given _ _ _ store =>
    -- it was another instance, for this one is still there
    have hremoved : i ≠ i' := by
      rintro rfl
      exact hstill (store ▸ Memory.row?_removedInstance _ _ _ _ _)
    rw [store]
    refine Memory.removed_induction
      (motive := fun memory => memory.row? table i = world.store.row? table i) ?_ ?_ ?_ copy given
    · rw [Memory.row?_leave, Memory.row?_drop_of_key_ne _ hremoved]
    · exact fun hsame => (Memory.row?_drop_of_key_ne _ hremoved).trans hsame
    · exact fun memory hsame => (Memory.row?_drop_of_key_ne _ hremoved).trans hsame
  | launched app snapshot parameters new absent _ _ _ store =>
    have hgiven : ∀ given ∈ parameters, i ≠ given.instanceId := by
      intro given hmem
      rw [new.parameters_key given hmem]
      exact hother absent
    rw [store, Memory.row?_putGiven_of_key_ne _ hgiven,
      Memory.row?_remains_of_key_ne _ new.snapshot_key (hother absent)]
  | remaining app snapshot parameters new row entry copy _ absent _ _ _ store =>
    rw [store, Memory.row?_remains_of_key_ne _ new.snapshot_key (hother absent)]

/-- **An operation that leaves an instance with a plain id stored leaves it listed.** -/
theorem Effect.entry_kept (h : Effect world world' trace operation succeeded) {o : String}
    (ho : Plain o) (hi : Plain i) (hlisted : world.store.hasChild o .appInstance i = true)
    (hstill : world'.store.row? .instances i ≠ none) :
    world'.store.hasChild o .appInstance i = true := by
  -- only an instance with this id has this entry
  have hleave : ∀ {memory : Memory} {o' c : String} {kind : ChildKind},
      memory.hasChild o .appInstance i = true → (kind = .appInstance → c ≠ i) →
      (memory.leave o' kind c).hasChild o .appInstance i = true := by
    intro memory o' c kind hchild hother
    refine Memory.hasChild_leave_iff.mpr ⟨fun heq => ?_, hchild⟩
    obtain ⟨-, hkind, hid⟩ := IndexKey.eq_of_entry_eq ho hi heq
    exact hother hkind.symm hid.symm
  have hremains : ∀ (app : Instance) (snapshot : Snapshot) (row entry copy : Bool),
      (world.store.remains app snapshot row entry copy).hasChild o .appInstance i = true :=
    fun app snapshot => Memory.remains_induction
      (motive := fun memory => memory.hasChild o .appInstance i = true) hlisted
      (fun hchild => hchild) (fun _ hchild => Memory.hasChild_enter_iff.mpr (Or.inr hchild))
      (fun _ hchild => hchild)
  cases h with
  | unchanged store => rwa [store]
  | founded _ _ _ store => rwa [store]
  | edited _ _ _ _ _ store => rwa [store]
  | registered _ _ _ _ store =>
    rw [store]
    exact Memory.hasChild_enter_iff.mpr (Or.inr hlisted)
  | stored _ _ _ _ store => rwa [store]
  | @removed kind _ c _ others _ _ _ store =>
    have hdropped : (world.store.drop kind.table c).hasChild o .appInstance i = true := hlisted
    rw [store]
    exact hleave hdropped fun hkind => absurd hkind others
  | @removedInstance o' i' app copy given _ _ _ store =>
    have hother : i' ≠ i := by
      rintro rfl
      exact hstill (store ▸ Memory.row?_removedInstance _ _ _ _ _)
    have hdropped : (world.store.drop .instances i').hasChild o .appInstance i = true := hlisted
    rw [store]
    exact Memory.removed_induction
      (motive := fun memory => memory.hasChild o .appInstance i = true)
      (hleave hdropped fun _ => hother) (fun hchild => hchild) (fun _ hchild => hchild) copy given
  | dropped _ _ _ _ _ _ store => rwa [store]
  | unlisted _ _ _ store =>
    rw [store]
    exact hleave hlisted fun hkind => absurd hkind (by decide)
  | launched app snapshot parameters _ _ _ _ _ store =>
    rw [store, Memory.hasChild, Memory.children_putGiven]
    exact hremains app snapshot true true true
  | remaining app snapshot _ _ row entry copy _ _ _ _ _ store =>
    rw [store]
    exact hremains app snapshot row entry copy

/-! ### Runs -/

/-- An instance is stored. -/
def World.HasInstance (i : String) (world : World Store) : Prop :=
  ∃ app : Instance, (world.store.perform (.get .instances i)).1 = .ok app

theorem World.hasInstance_iff {world : World Store} (hfaithful : world.store.Faithful) :
    world.HasInstance i ↔ world.store.contents.row? .instances i ≠ none := by
  rw [Option.ne_none_iff_exists']
  exact exists_congr fun app => hfaithful.get_eq_ok

theorem World.hasInstance_of_isSome {world : World Store}
    (h : (world.store.perform (.get .instances i)).1.toOption.isSome = true) :
    world.HasInstance i := by
  obtain ⟨app, happ⟩ := Option.isSome_iff_exists.mp h
  exact ⟨app, toOption_eq_some_iff.mp happ⟩

/-- What came with an instance when it was made is there later, and the instance is listed if it
was and its id is plain. -/
structure CopiesKept (i : String) (made later : World Store) : Prop where
  faithful : later.store.Faithful
  keyed : later.store.contents.Keyed
  there : later.HasInstance i
  copies : ∀ table : Table, table.Accompanying →
    later.store.contents.row? table i = made.store.contents.row? table i
  listed : ∀ o, Plain o → Plain i → made.store.contents.hasChild o .appInstance i = true →
    later.store.contents.hasChild o .appInstance i = true

/-- An operation that leaves an instance stored leaves there what came with it. -/
theorem Step.copies_kept {made world world' : World Store} {event : Event}
    (h : Step world (.operation event) world') (still : world'.HasInstance i)
    (hkept : CopiesKept i made world) : CopiesKept i made world' := by
  obtain ⟨time, heffect, hafter⟩ := h.effect hkept.faithful hkept.keyed
  have hthere := (World.hasInstance_iff hkept.faithful).mp hkept.there
  have hstill := (World.hasInstance_iff hafter).mp still
  refine ⟨hafter, heffect.keyed hkept.keyed, still, ?copies, ?listed⟩
  case copies =>
    intro table htable
    exact (heffect.copy_kept htable hthere hstill).trans (hkept.copies table htable)
  case listed =>
    intro o ho hi hlisted
    exact heffect.entry_kept ho hi (hkept.listed o ho hi hlisted) hstill

/-- **As long as an instance is stored, what came with it is as it was**, and if its id is plain it
stays listed. -/
theorem RunsWhile.copies_kept {made later : World Store} (hfaithful : made.store.Faithful)
    (hkeyed : made.store.contents.Keyed) (hthere : made.HasInstance i)
    (h : RunsWhile (·.HasInstance i) made later) : CopiesKept i made later := by
  obtain ⟨events, hruns⟩ := h
  refine hruns.keeps ?_ fun _ _ _ last => last.1.copies_kept last.2
  exact ⟨hfaithful, hkeyed, hthere, fun _ _ => rfl, fun _ _ _ hlisted => hlisted⟩

/-- The snapshot of an instance is shown if the instance is listed. -/
theorem Instances.runWith_snapshot (o i : String) (world : World Memory) :
    (Instances.snapshot o i).runWith .memory world =
      (world.store.require .appInstance o i >>= fun _ => world.store.find .snapshots i, world) := by
  have hrun : (Instances.snapshot o i).runWith .memory world =
      outcome world
        (world.store.require .appInstance o i >>= fun _ => world.store.find .snapshots i)
        fun snapshot => (.ok snapshot, world) := by
    refine runWith_bind_outcome (ChildKind.runWith_require _ o i world) fun _ _ => ?_
    rw [runWith_find]
    cases world.store.find .snapshots i <;> rfl
  rw [hrun]
  cases world.store.require .appInstance o i >>= fun _ => world.store.find .snapshots i <;> rfl

/-- **What an instance was made with does not change as long as the instance is stored**, whatever
is done, whatever calls are stopped and however ids are chosen; and its organization is shown the
snapshot, unless the id of the instance is not plain and the instance is not listed any more. -/
theorem snapshot_stays {start world made later : World Store} {events : List Event}
    {request : NewInstance} {time : Int64} {trace : List Attempt} {app : Instance}
    (hfresh : start.store.Fresh) (hbefore : Runs start events world)
    (hmade : (Operation.addInstance request).procedure.Ends .store (world.at time) trace (.ok app)
      made)
    (hlater : RunsWhile (·.HasInstance app.instanceId) made later) :
    ∃ snapshot : Snapshot,
      (made.store.perform (.get .snapshots app.instanceId)).1 = .ok snapshot ∧
      (later.store.perform (.get .snapshots app.instanceId)).1 = .ok snapshot ∧
      (later.store.perform (.get .parameters app.instanceId)).1 =
        (made.store.perform (.get .parameters app.instanceId)).1 ∧
      ∀ time,
        ((Operation.getSnapshot app.organizationId app.instanceId).procedure.runWith .store
          (later.at time)).1 = .ok snapshot ∨
        ¬ Plain app.instanceId ∧
          ((Operation.getSnapshot app.organizationId app.instanceId).procedure.runWith .store
            (later.at time)).1 =
            .error (.notFound (.child .appInstance app.instanceId app.organizationId)) := by
  obtain ⟨hfaithful, hkeyed⟩ := hbefore.faithful hfresh
  obtain ⟨hends, hmadefaithful⟩ := Program.ends_contents hmade hfaithful
  obtain ⟨heffect, -⟩ := Operation.effect_contents hmade hfaithful hkeyed
  obtain ⟨hplain, hrow, hlisted, snapshot, hsnapshot⟩ := Instances.made hends
  obtain ⟨hlaterfaithful, -, -, hcopies, hentry⟩ := hlater.copies_kept hmadefaithful
    (heffect.keyed hkeyed) ((World.hasInstance_iff hmadefaithful).mpr hrow)
  have hcopy := (hcopies .snapshots (Or.inl rfl)).trans hsnapshot
  refine ⟨snapshot, hmadefaithful.get_eq_ok.mpr hsnapshot, hlaterfaithful.get_eq_ok.mpr hcopy,
    ?_, fun time => ?_⟩
  · rw [(hlaterfaithful.perform _).1, (hmadefaithful.perform _).1, Memory.perform_get,
      Memory.perform_get, hcopies .parameters (Or.inr rfl)]
  -- the snapshot is there, and shown if the instance is listed
  have hlaterat : (later.at time).store.Faithful := hlaterfaithful
  have hanswer : ((Operation.getSnapshot app.organizationId app.instanceId).procedure.runWith .store
      (later.at time)).1 =
      (later.store.contents.require .appInstance app.organizationId app.instanceId >>=
        fun _ => .ok snapshot) := by
    refine (Program.run_contents (Instances.snapshot _ _).run hlaterat).1.trans ?_
    rw [← Memory.find_eq_ok.mpr hcopy]
    exact congrArg Prod.fst (Instances.runWith_snapshot _ _ _)
  rw [hanswer, Memory.require]
  split
  · exact Or.inl rfl
  · next hunlisted =>
    exact Or.inr ⟨fun hi => hunlisted (hentry _ hplain hi hlisted), rfl⟩

/-- The descriptor of an instance is edited, and its id is drawn for another instance. -/
theorem snapshot_stays_of_edit_and_same_id :
    let start : World Store :=
      { store := .memory .empty
        ids := ⟨fun n => ["id-1", "id-2", "id-3", "id-4", "id-5", "id-5"].getD n "", 0⟩
        clock := 0 }
    let service : Service := { (default : Service) with name := "api", image := "api:1" }
    let group : ServiceGroup :=
      { (default : ServiceGroup) with name := "web", services := [service] }
    let steps : List (Operation × Int64 × List (Option StoreError)) :=
      [(.addOrganization { (default : NewOrganization) with name := "acme" }, 1, []),
        (.addDescriptor { (default : NewDescriptor) with
          organizationId := "id-1", name := "shop", groups := [group] }, 2, [])]
    let request : NewInstance :=
      { (default : NewInstance) with
        organizationId := "id-1", descriptorId := "id-2", name := "shop" }
    let edit : DescriptorEdit :=
      { (default : DescriptorEdit) with
        organizationId := "id-1", descriptorId := "id-2", name := some "store" }
    let world := start.afterStopping steps
    let made := world.after (.addInstance request) 3
    let later := (made.after (.updateDescriptor edit) 4).after (.addInstance request) 5
    later.ids.drawn = 6 ∧
      (∃ snapshot : Snapshot,
        (made.store.perform (.get .snapshots "id-5")).1 = .ok snapshot ∧
        (later.store.perform (.get .snapshots "id-5")).1 = .ok snapshot) ∧
      (later.store.perform (.get .parameters "id-5")).1 =
        (made.store.perform (.get .parameters "id-5")).1 := by
  intro start service group steps request edit world made later
  have hstart : Runs start [] start := .start
  obtain ⟨events, hruns⟩ := hstart.afterStopping steps
  obtain ⟨trace, -, hends⟩ := Procedure.ends_runWith .store
    (Operation.addInstance request).procedure (world.at 3)
  have hid : (((Operation.addInstance request).procedure.runWith .store (world.at 3)).1.toOption.map
      fun app : Instance => app.instanceId) = some "id-5" := by
    decide +kernel
  obtain ⟨app, happ, hid⟩ := Option.map_eq_some_iff.mp hid
  rw [toOption_eq_some_iff.mp happ] at hends
  have hlater : RunsWhile (·.HasInstance app.instanceId) made later := by
    rw [hid]
    have hedited : RunsWhile (·.HasInstance "id-5") made (made.after (.updateDescriptor edit) 4) :=
      RunsWhile.start.after _ _ (World.hasInstance_of_isSome (by decide +kernel))
    exact hedited.after _ _ (World.hasInstance_of_isSome (by decide +kernel))
  obtain ⟨snapshot, hbefore, hafter, hgiven, -⟩ := snapshot_stays (Or.inl rfl) hruns hends hlater
  rw [hid] at hbefore hafter hgiven
  exact ⟨by decide +kernel, ⟨snapshot, hbefore, hafter⟩, hgiven⟩

/-- **A snapshot can be hidden**: the entry of the instance `x/node/n-1` of `id-1` has the text of
the entry of the node `n-1` of `id-1/instance/x`, and the node is there. -/
theorem snapshot_hidden_by_node :
    let start : World Store :=
      { store := .memory .empty
        ids := ⟨fun n => ["id-1", "n-1", "d-1", "d-2", "d-3", "x/node/n-1"].getD n "", 0⟩
        clock := 0 }
    let service : Service := { (default : Service) with name := "api", image := "api:1" }
    let group : ServiceGroup :=
      { (default : ServiceGroup) with name := "web", services := [service] }
    let steps : List (Operation × Int64 × List (Option StoreError)) :=
      [(.addOrganization { (default : NewOrganization) with name := "acme" }, 1, []),
        (.addNode { (default : NewNode) with organizationId := "id-1", ip := "10.0.0.1" }, 2, []),
        (.addDescriptor { (default : NewDescriptor) with
          organizationId := "id-1", name := "shop", groups := [group] }, 3, [])]
    let request : NewInstance :=
      { (default : NewInstance) with
        organizationId := "id-1", descriptorId := "d-1", name := "shop" }
    let world := start.afterStopping steps
    let made := world.after (.addInstance request) 4
    let later := made.after (.remove .node "id-1/instance/x" "n-1") 5
    let shown (world : World Store) : Except RegistryError Snapshot :=
      ((Operation.getSnapshot "id-1" "x/node/n-1").procedure.runWith .store (world.at 6)).1
    (∃ (events : List Event) (trace : List Attempt) (app : Instance), Runs start events world ∧
      app.organizationId = "id-1" ∧ app.instanceId = "x/node/n-1" ∧
      (Operation.addInstance request).procedure.Ends .store (world.at 4) trace (.ok app) made) ∧
    RunsWhile (·.HasInstance "x/node/n-1") made later ∧
    (∃ snapshot, shown made = .ok snapshot) ∧
    shown later = .error (.notFound (.child .appInstance "x/node/n-1" "id-1")) := by
  intro start service group steps request world made later shown
  refine ⟨?made, ?kept, ?before, ?after⟩
  case made =>
    have hstart : Runs start [] start := .start
    obtain ⟨events, hruns⟩ := hstart.afterStopping steps
    obtain ⟨trace, -, hends⟩ := Procedure.ends_runWith .store
      (Operation.addInstance request).procedure (world.at 4)
    have hid : (((Operation.addInstance request).procedure.runWith .store
        (world.at 4)).1.toOption.map fun app : Instance => (app.organizationId, app.instanceId)) =
        some ("id-1", "x/node/n-1") := by
      decide +kernel
    obtain ⟨app, happ, hid⟩ := Option.map_eq_some_iff.mp hid
    obtain ⟨howner, hid⟩ := Prod.mk.inj hid
    rw [toOption_eq_some_iff.mp happ] at hends
    exact ⟨events, trace, app, hruns, howner, hid, hends⟩
  case kept => exact RunsWhile.start.after _ _ (World.hasInstance_of_isSome (by decide +kernel))
  case before =>
    have hshown : (shown made).toOption.isSome = true := by decide +kernel
    obtain ⟨snapshot, hsnapshot⟩ := Option.isSome_iff_exists.mp hshown
    exact ⟨snapshot, toOption_eq_some_iff.mp hsnapshot⟩
  case after => decide +kernel

end TenantRegistry
