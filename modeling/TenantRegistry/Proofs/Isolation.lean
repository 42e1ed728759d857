/-
TenantRegistry/Proofs/Isolation.lean

Organizations do not disturb each other.

All organizations share the tables, and one index whose keys are put together
from texts.  Ids in a request are not always checked, so that they may have
separators in them and be chosen to look like the ids of another organization.

An operation writes under keys of three sorts: keys of rows that its
organization owns, keys without a row, and keys of the index with its own
organization in them.  Where the index and the rows agree, none of these is of
anything that another organization sees (`Memory.Apart`), and so every other
organization is undisturbed by every one of its effects (`Effect.undisturbed`).

Main result: `answer_of_other`.
-/
import TenantRegistry.Proofs.Runs
import TenantRegistry.Proofs.Views

namespace TenantRegistry

/-! ### Keys apart from an organization -/

/-- Nothing that the organization sees is under the key. -/
structure Memory.Apart (memory : Memory) (o : String) (table : Table) (key : String) : Prop where
  organization : table = .organizations → key ≠ o
  rows : ∀ (kind : ChildKind) c, memory.hasChild o kind c = true → kind.Holds table → c ≠ key

variable {memory : Memory} {kind : ChildKind} {table : Table} {key a o : String}

/-- What an organization sees it owns, so that it sees nothing under other keys. -/
theorem Indexed.apart (h : Indexed memory) (hholds : kind.Holds table)
    (howner : memory.ownerAt kind.table key ≠ some (some o)) : memory.Apart o table key where
  organization htable := absurd htable hholds.ne_organizations
  rows other c hlisted hother := by
    rintro rfl
    obtain rfl := hholds.eq hother
    exact howner (h.of_hasChild hlisted).1

theorem Indexed.apart_of_absent (h : Indexed memory) (hholds : kind.Holds table)
    (habsent : memory.row? kind.table key = none) : memory.Apart o table key := by
  refine h.apart hholds ?_
  rw [Memory.ownerAt_eq_none.mpr habsent]
  exact nofun

/-- Nothing under a key that another organization lists. -/
theorem Indexed.apart_of_hasChild (h : Indexed memory) (hholds : kind.Holds table)
    (hlisted : memory.hasChild a kind key = true) (hother : o ≠ a) : memory.Apart o table key := by
  refine h.apart hholds ?_
  rw [(h.of_hasChild hlisted).1]
  exact fun heq => hother (Option.some.inj (Option.some.inj heq)).symm

/-- A row that another organization found. -/
theorem Memory.Found.apart {row : table.Row} (hfound : memory.Found a table row)
    (h : Indexed memory) (hother : o ≠ a) : memory.Apart o table (table.key row) := by
  cases hfound with
  | @organization row present =>
    have hkey : row.organizationId = a := h.keyed _ _ _ present
    refine { organization := fun _ => ?_, rows := fun kind _ _ hholds => ?_ }
    · show row.organizationId ≠ o
      rw [hkey]
      exact hother.symm
    · exact absurd rfl hholds.ne_organizations
  | @child kind c row fetched =>
    rw [h.keyed _ _ _ fetched.present]
    exact h.apart_of_hasChild kind.holds_table fetched.listed hother

/-- **An edit for one organization is apart from all others.** -/
theorem Edit.apart {ids ids' : IdSource} {operation : Operation} {before after : table.Row}
    (hedit : Edit memory ids ids' operation table before after) (h : Indexed memory)
    (haddressee : operation.addressee? = some a) (hother : o ≠ a) :
    memory.Apart o table (table.key after) := by
  obtain ⟨found, hfor, hfound⟩ := hedit.found
  obtain rfl : found = a := Option.some.inj (hfor.symm.trans haddressee)
  rw [hedit.key]
  exact hfound.apart h hother

/-! ### Changes apart from an organization -/

namespace Undisturbed

variable {before after : Memory}

/-- Nothing changes but under one key. -/
theorem change (h : Undisturbed o before after) {changed : Memory}
    (hapart : before.Apart o table key)
    (hrows : ∀ other c, (other = table → c ≠ key) → changed.row? other c = after.row? other c)
    (hchildren : changed.children = after.children) : Undisturbed o before changed where
  organization := by
    rw [hrows .organizations o fun htable => (hapart.organization htable.symm).symm]
    exact h.organization
  listed kind c := by
    rw [Memory.hasChild, hchildren]
    exact h.listed kind c
  rows kind c other hlisted hholds := by
    rw [hrows other c fun htable => hapart.rows kind c hlisted (htable ▸ hholds)]
    exact h.rows kind c other hlisted hholds

theorem put (h : Undisturbed o before after) {row : table.Row}
    (hapart : before.Apart o table (table.key row)) :
    Undisturbed o before (after.put table row) := by
  refine h.change hapart (fun other c hne => ?_) rfl
  by_cases htable : other = table
  · subst htable
    rw [Memory.row?_put_self, if_neg (hne rfl)]
  · rw [Memory.row?_put_of_ne _ _ htable]

theorem drop (h : Undisturbed o before after) (hapart : before.Apart o table key) :
    Undisturbed o before (after.drop table key) := by
  refine h.change hapart (fun other c hne => ?_) rfl
  by_cases htable : other = table
  · subst htable
    rw [Memory.row?_drop_self, if_neg (hne rfl)]
  · rw [Memory.row?_drop_of_ne _ _ htable]

/-- An entry with plain parts is of one organization only. -/
theorem entry_ne {c c' : String} {kind' : ChildKind} (ha : Plain a) (hc : Plain c)
    (hother : o ≠ a) : IndexKey.entry o kind' c' ≠ IndexKey.entry a kind c :=
  fun heq => hother (IndexKey.eq_of_entry_eq ha hc heq.symm).1.symm

theorem enter (h : Undisturbed o before after) {c : String} (ha : Plain a) (hc : Plain c)
    (hother : o ≠ a) : Undisturbed o before (after.enter a kind c) where
  organization := h.organization
  listed kind' c' := by
    rw [Memory.hasChild, Memory.contains_children_enter, decide_eq_false (entry_ne ha hc hother),
      Bool.false_or]
    exact h.listed kind' c'
  rows := h.rows

theorem leave (h : Undisturbed o before after) {c : String} (ha : Plain a) (hc : Plain c)
    (hother : o ≠ a) : Undisturbed o before (after.leave a kind c) where
  organization := h.organization
  listed kind' c' := by
    rw [Memory.hasChild, Memory.contains_children_leave, decide_eq_true (entry_ne ha hc hother),
      Bool.true_and]
    exact h.listed kind' c'
  rows := h.rows

/-- What remains of an instance. -/
theorem remains {app : Instance} {snapshot : Snapshot}
    (happ : before.Apart o .instances app.instanceId)
    (hcopy : before.Apart o .snapshots snapshot.instanceId) (ha : Plain app.organizationId)
    (hc : Plain app.instanceId) (hother : o ≠ app.organizationId) (row entry copy : Bool) :
    Undisturbed o before (before.remains app snapshot row entry copy) :=
  Memory.remains_induction (.refl o before) (fun h => h.put happ)
    (fun _ h => h.enter ha hc hother) (fun _ h => h.put hcopy) row entry copy

end Undisturbed

/-- **An operation for one organization leaves every other undisturbed**, whatever is stopped, if
the index and the rows agree and ids are plain. -/
theorem Effect.undisturbed {world world' : World Memory} {trace : List Attempt}
    {operation : Operation} {succeeded : Bool}
    (heffect : Effect world world' trace operation succeeded)
    (hids : ∀ n, Plain (world'.ids.name n)) (h : Indexed world.store)
    (haddressee : operation.addressee? = some a) (hother : o ≠ a) :
    Undisturbed o world.store world'.store := by
  have hrefl := Undisturbed.refl o world.store
  -- what is registered is registered for the addressee
  have hregisters : ∀ {kind o'}, operation.registers? = some (kind, o') → o' = a := by
    intro kind o' hregisters
    have hsame := (Operation.addressee?_of_registers? hregisters).symm.trans haddressee
    exact Option.some.inj hsame
  -- an instance, with what comes with it, is under an id without an instance
  have hmade : ∀ {o' : String} {app : Instance} {snapshot : Snapshot}
      {parameters : Option InstanceParameters}, o' = a →
      NewInstanceRows world world' o' app snapshot parameters →
      world.store.row? .instances app.instanceId = none → ∀ row entry copy,
      Undisturbed o world.store (world.store.remains app snapshot row entry copy) := by
    rintro o' app snapshot parameters rfl new habsent row entry copy
    have happ : world.store.Apart o .instances app.instanceId :=
      h.apart_of_absent (ChildKind.holds_table .appInstance) habsent
    have hcopy : world.store.Apart o .snapshots snapshot.instanceId := by
      rw [new.snapshot_key]
      exact h.apart_of_absent ChildKind.holds_snapshots habsent
    have howner := new.owner
    exact .remains happ hcopy (howner ▸ new.plain) (new.issued.plain hids) (howner ▸ hother) row
      entry copy
  cases heffect with
  | unchanged store => exact store ▸ hrefl
  | founded => cases haddressee
  | edited before after _ _ _ store edit =>
    rw [store]
    exact hrefl.put (edit.apart h haddressee hother)
  | @registered _ kind _ row registers new _ store =>
    obtain rfl := hregisters registers
    rw [store]
    have hapart : world.store.Apart o kind.table (kind.table.key row) :=
      h.apart_of_absent kind.holds_table new.absent
    exact (hrefl.put hapart).enter new.plain (new.plain_key hids) hother
  | @stored _ kind _ row registers new _ store =>
    rw [store]
    exact hrefl.put (h.apart_of_absent kind.holds_table new.absent)
  | @removed kind _ c row _ listed _ _ store =>
    cases haddressee
    rw [store]
    obtain ⟨-, ha, hc⟩ := h.of_hasChild listed
    exact (hrefl.drop (h.apart_of_hasChild kind.holds_table listed hother)).leave ha hc hother
  | @removedInstance _ c app copy given listed _ _ store =>
    cases haddressee
    rw [store]
    obtain ⟨-, ha, hc⟩ := h.of_hasChild listed
    have hapart : ∀ {table}, ChildKind.Holds .appInstance table → world.store.Apart o table c :=
      fun hholds => h.apart_of_hasChild hholds listed hother
    have happ := hapart (ChildKind.holds_table .appInstance)
    have hcopy := hapart ChildKind.holds_snapshots
    have hgiven := hapart ChildKind.holds_parameters
    have hgone : Undisturbed o world.store
        ((world.store.drop .instances c).leave a .appInstance c) :=
      (hrefl.drop happ).leave ha hc hother
    exact Memory.removed_induction hgone (fun h => h.drop hcopy) (fun _ h => h.drop hgiven) copy
      given
  | @dropped kind _ c row _ listed _ _ _ store =>
    cases haddressee
    rw [store]
    exact hrefl.drop (h.apart_of_hasChild kind.holds_table listed hother)
  | @unlisted _ c listed _ _ store =>
    cases haddressee
    rw [store]
    obtain ⟨-, ha, hc⟩ := h.of_hasChild listed
    exact hrefl.leave ha hc hother
  | launched app snapshot parameters new absent _ _ _ store =>
    rw [store]
    have hremains := hmade (Option.some.inj haddressee) new absent true true true
    cases parameters with
    | none => exact hremains
    | some given =>
      refine hremains.put ?_
      show world.store.Apart o .parameters given.instanceId
      rw [new.parameters_key given rfl]
      exact h.apart_of_absent ChildKind.holds_parameters absent
  | remaining app snapshot _ new row entry copy _ absent _ _ _ store =>
    rw [store]
    exact hmade (Option.some.inj haddressee) new absent row entry copy

/-! ### Views of others -/

/-- **Every view of an organization answers alike before and after an operation for another
one**, however the operation ends and whatever ids are in either of them, after operations of which
no call was stopped, from an empty registry with plain ids. -/
theorem answer_of_other {start : World Store} (hfresh : start.store.Fresh)
    (hplain : ∀ n, Plain (start.ids.name n)) (operations : List (Operation × Int64))
    {operation : Operation} {a b : String} (haddressee : operation.addressee? = some a)
    (hother : b ≠ a) {time : Int64} {trace : List Attempt}
    {result : Except RegistryError operation.Answer} {world' : World Store}
    (h : operation.procedure.Ends .store ((start.afterAll operations).at time) trace result world')
    {view : Operation} (hview : view.Views b) :
    (view.procedure.runWith .store world').1 =
      (view.procedure.runWith .store (start.afterAll operations)).1 := by
  have hsound := (World.sound_of_fresh hfresh hplain).afterAll operations
  have hat := hsound.at time
  obtain ⟨heffect, hfaithful⟩ := Operation.effect_contents h hat.faithful hat.consistent.keyed
  have hids : ∀ n, Plain (world'.contents.ids.name n) := by
    show ∀ n, Plain (world'.ids.name n)
    rw [(Program.Ends.extends h).1.name]
    exact hat.plain
  have hundisturbed : Undisturbed b (start.afterAll operations).contents.store
      world'.contents.store :=
    heffect.undisturbed hids hat.consistent.toIndexed haddressee hother
  -- storage of either sort answers a view as its contents do
  calc
    _ = (view.procedure.runWith .memory world'.contents).1 :=
      (Program.run_contents view.procedure.run hfaithful).1
    _ = (view.procedure.runWith .memory (start.afterAll operations).contents).1 :=
      hundisturbed.answer hview
    _ = _ := (Program.run_contents view.procedure.run hsound.faithful).1.symm

/-- One organization removes its user, and another lists its own. -/
theorem answer_of_other_organization :
    let start : World Store := { store := .memory .empty, ids := .sequential "id", clock := 0 }
    let operations : List (Operation × Int64) :=
      [(.addOrganization { (default : NewOrganization) with name := "acme" }, 1),
        (.addOrganization { (default : NewOrganization) with name := "globex" }, 2),
        (.addUser { organizationId := "id-1", email := "ann@mail", name := "Ann" }, 3),
        (.addUser { organizationId := "id-2", email := "sam@mail", name := "Sam" }, 4)]
    let before := start.afterAll operations
    let ended := (Operation.remove .user "id-1" "ann@mail").procedure.runWith .store (before.at 5)
    (Operation.remove .user "id-1" "ann@mail").addressee? = some "id-1" ∧ "id-2" ≠ "id-1" ∧
      (Operation.list .user "id-2").Views "id-2" ∧ ended.1 = .ok () ∧
      ((Operation.list .user "id-2").procedure.runWith .store ended.2).1 =
        ((Operation.list .user "id-2").procedure.runWith .store before).1 := by
  intro start operations before ended
  have haddressee : (Operation.remove .user "id-1" "ann@mail").addressee? = some "id-1" := rfl
  have hother : "id-2" ≠ "id-1" := by decide
  have hview : (Operation.list .user "id-2").Views "id-2" := .list .user
  have hremoved : ended.1 = .ok () := by decide +kernel
  obtain ⟨trace, -, hends⟩ := Procedure.ends_runWith .store
    (Operation.remove .user "id-1" "ann@mail").procedure (before.at 5)
  have hfresh : start.store.Fresh := Or.inl rfl
  have hsame := answer_of_other hfresh (IdSource.plain_sequential (by decide)) operations haddressee
    hother hends hview
  exact ⟨haddressee, hother, hview, hremoved, hsame⟩

end TenantRegistry
