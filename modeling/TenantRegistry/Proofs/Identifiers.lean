/-
TenantRegistry/Proofs/Identifiers.lean

Every id is assigned once.

The registry assigns ids to records and to their parts: to organizations,
clusters, nodes, roles, descriptors and instances, to the rules, groups and
services of a descriptor, and to the group instances of an instance with the
service instances in them.  `Table.ids` lists those of one row.  A snapshot is
left out, for it is a copy of a descriptor under the same ids, and so are users,
who are known by an address that they bring along.

What an operation writes into a row is a part of the ids that were there, with
fresh ids added (`Edit.ids_perm`), or all of them are fresh (`NewRow.ids_issued`).  Fresh
ids were never drawn before, if the source of ids does not repeat itself, and so
no id comes to stand in two places (`Assigned`), whatever calls are stopped.

Main result: `ids_assigned_once`.
-/
import Mathlib.Data.List.Nodup
import TenantRegistry.Proofs.EditFirst
import TenantRegistry.Proofs.Runs

namespace TenantRegistry

/-! ### Ids in rows -/

/-- The ids in a group instance. -/
def GroupInstance.ids (group : GroupInstance) : List String :=
  group.groupInstanceId :: group.services.map (·.serviceInstanceId)

/-- The ids that the registry assigned in a row. -/
def Table.ids : (table : Table) → table.Row → List String
  | .organizations, row => [row.organizationId]
  | .clusters, row => [row.clusterId]
  | .nodes, row => [row.nodeId]
  | .roles, row => [row.roleId]
  | .descriptors, row =>
    row.descriptorId :: (row.rules.map (·.ruleId) ++ row.groups.flatMap ServiceGroup.ids)
  | .instances, row => row.instanceId :: row.groups.flatMap GroupInstance.ids
  | _, _ => []

/-! ### Ids of rows that are written -/

section Written

variable {memory : Memory} {ids ids' : IdSource} {operation : Operation}

/-- A report changes no id. -/
theorem GroupInstance.ids_report (group : GroupInstance) (request : StatusReport) :
    (group.editService request.serviceInstanceId request.apply).withDerivedStatus.ids =
      group.ids := by
  have hservices : (editFirst (fun service : ServiceInstance =>
      decide (service.serviceInstanceId = request.serviceInstanceId)) request.apply
      group.services).flatMap (fun service => [service.serviceInstanceId]) =
        group.services.flatMap fun service => [service.serviceInstanceId] := by
    refine flatMap_editFirst_of_same _ (fun service => ?_) _
    rfl
  rw [← List.map_eq_flatMap, ← List.map_eq_flatMap] at hservices
  exact congrArg (group.groupInstanceId :: ·) hservices

/-- **An edited row has some of the ids that it had, and fresh ones.** -/
theorem Edit.ids_perm {table : Table} {before after : table.Row}
    (h : Edit memory ids ids' operation table before after) (hext : ids.Extends ids') :
    ∃ kept given, kept.Sublist (table.ids before) ∧ ids.Gave ids' given ∧
      (table.ids after).Perm (kept ++ given) := by
  -- most edits change no id
  have hsame : table.ids after = table.ids before → ∃ kept given,
      kept.Sublist (table.ids before) ∧ ids.Gave ids' given ∧
        (table.ids after).Perm (kept ++ given) := by
    intro heq
    refine ⟨_, [], List.Sublist.refl _, hext.gave_nil, ?_⟩
    rw [heq, List.append_nil]
  cases h with
  | organization => exact hsame rfl
  | cluster => exact hsame rfl
  | cordon => exact hsame rfl
  | uncordon => exact hsame rfl
  | assignment => exact hsame rfl
  | @descriptor edit before groups valid fetched renewed =>
    rcases renewed with rfl | gave
    · exact hsame rfl
    · -- the ids of the groups that were there are gone
      refine ⟨before.descriptorId :: before.rules.map (·.ruleId), _, ?_, gave, ?_⟩
      · exact (List.sublist_append_left _ _).cons_cons _
      · exact List.Perm.refl _
  | @groupInstances request before snapshot group given valid listed fetched made_from copy found
      gave =>
    refine ⟨_, given, List.Sublist.refl _, gave, ?_⟩
    have hnew : (given.map (Instances.newGroup group request.replicaCount)).flatMap
        GroupInstance.ids = given := by
      rw [List.flatMap_map]
      exact List.flatMap_singleton' given
    show (before.instanceId :: (before.groups ++ _).flatMap GroupInstance.ids).Perm _
    rw [List.flatMap_append, hnew]
    exact List.Perm.refl _
  | @serviceInstance request descriptor before group service id valid live fetched made_from found
      offered there gave =>
    refine ⟨_, [id], List.Sublist.refl _, gave, ?_⟩
    have hmore : ∀ deployed : GroupInstance,
        (deployed.addService (Instances.newService service id)).ids = deployed.ids ++ [id] := by
      intro deployed
      exact congrArg (deployed.groupInstanceId :: ·) List.map_append
    exact (flatMap_editFirst_perm hmore there).cons _
  | @report request before =>
    refine hsame (congrArg (before.instanceId :: ·) ?_)
    exact flatMap_editFirst_of_same GroupInstance.ids (fun group => group.ids_report request) _
  | @replicas o instanceId groupInstanceId available unavailable before =>
    refine hsame (congrArg (before.instanceId :: ·) ?_)
    refine flatMap_editFirst_of_same GroupInstance.ids (fun group => ?_) _
    rfl
  | status => exact hsame rfl
  | @noGroups o instanceId before =>
    refine ⟨[before.instanceId], [], ?_, hext.gave_nil, List.Perm.refl _⟩
    exact (List.nil_sublist _).cons_cons _

end Written

/-- **All ids in a new row are fresh**, and they differ. -/
theorem NewRow.ids_issued {world world' : World Memory} {operation : Operation} {kind : ChildKind}
    {o : String} {row : kind.Row} (new : NewRow world world' kind o row)
    (draft : Draft world.ids world'.ids operation kind row)
    (hinjective : Function.Injective world'.ids.name) :
    (kind.table.ids row).Nodup ∧ ∀ id ∈ kind.table.ids row, world.ids.Issued world'.ids id := by
  have hkey := new.key
  cases draft with
  | cluster => exact ⟨List.nodup_singleton _, List.forall_mem_singleton.mpr hkey⟩
  | node => exact ⟨List.nodup_singleton _, List.forall_mem_singleton.mpr hkey⟩
  | user => exact ⟨List.nodup_nil, nofun⟩
  | role => exact ⟨List.nodup_singleton _, List.forall_mem_singleton.mpr hkey⟩
  | descriptor _ _ _ _ _ gave => exact ⟨gave.nodup hinjective, gave.issued⟩

/-! ### No id in two places -/

/-- All ids were drawn since `start`, and none stands in two places. -/
structure Assigned (start ids : IdSource) (memory : Memory) : Prop where
  issued : ∀ table key row, memory.row? table key = some row →
    ∀ id ∈ table.ids row, start.Issued ids id
  nodup : ∀ table key row, memory.row? table key = some row → (table.ids row).Nodup
  /-- An id shows the row that it is in. -/
  place : ∀ table table' key key' row row', memory.row? table key = some row →
    memory.row? table' key' = some row' → ∀ id ∈ table.ids row, id ∈ table'.ids row' →
    table = table' ∧ key = key'

namespace Assigned

variable {start ids ids' : IdSource} {memory : Memory}

theorem empty (ids : IdSource) : Assigned ids ids .empty where
  issued table key row h := by
    rw [Memory.row?_empty] at h
    cases h
  nodup table key row h := by
    rw [Memory.row?_empty] at h
    cases h
  place table table' key key' row row' h := by
    rw [Memory.row?_empty] at h
    cases h

theorem later (h : Assigned start ids memory) (hext : ids.Extends ids') :
    Assigned start ids' memory where
  issued table key row hrow id hmem := (h.issued table key row hrow id hmem).extend hext
  nodup := h.nodup
  place := h.place

theorem enter (h : Assigned start ids memory) (o : String) (kind : ChildKind) (c : String) :
    Assigned start ids (memory.enter o kind c) := ⟨h.issued, h.nodup, h.place⟩

theorem leave (h : Assigned start ids memory) (o : String) (kind : ChildKind) (c : String) :
    Assigned start ids (memory.leave o kind c) := ⟨h.issued, h.nodup, h.place⟩

theorem drop (h : Assigned start ids memory) (table : Table) (key : String) :
    Assigned start ids (memory.drop table key) where
  issued _ _ _ hrow := h.issued _ _ _ (Memory.row?_of_drop hrow)
  nodup _ _ _ hrow := h.nodup _ _ _ (Memory.row?_of_drop hrow)
  place _ _ _ _ _ _ hrow hrow' :=
    h.place _ _ _ _ _ _ (Memory.row?_of_drop hrow) (Memory.row?_of_drop hrow')

/-- **A row is put of which each id is fresh, or was in the row that it replaces.** -/
theorem put (h : Assigned start ids memory) (hstart : start.Extends ids) (hext : ids.Extends ids')
    (hinjective : Function.Injective ids'.name) {table : Table} {row : table.Row}
    (hnodup : (table.ids row).Nodup)
    (hids : ∀ id ∈ table.ids row, ids.Issued ids' id ∨
      ∃ before, memory.row? table (table.key row) = some before ∧ id ∈ table.ids before) :
    Assigned start ids' (memory.put table row) := by
  -- what is found after the write was there, or is the new row
  have hfound : ∀ {other key found}, (memory.put table row).row? other key = some found →
      memory.row? other key = some found ∨
        ∃ heq : table = other, table.key row = key ∧ heq ▸ row = found := by
    intro other key found hrow
    by_cases hother : other = table
    · subst hother
      rw [Memory.row?_put_self] at hrow
      split at hrow
      · next hkey =>
        cases hrow
        exact Or.inr ⟨rfl, hkey.symm, rfl⟩
      · exact Or.inl hrow
    · rw [Memory.row?_put_of_ne _ _ hother] at hrow
      exact Or.inl hrow
  -- an id of the new row that is in any row of before is in the one under its key
  have hplace : ∀ {other key found id}, memory.row? other key = some found →
      id ∈ other.ids found → id ∈ table.ids row → table = other ∧ table.key row = key := by
    intro other key found id hrow hmem hnew
    rcases hids id hnew with hissued | ⟨before, hbefore, hmem'⟩
    · exact absurd (h.issued _ _ _ hrow _ hmem).drawn (hissued.not_drawn hext hinjective)
    · exact h.place _ _ _ _ _ _ hbefore hrow id hmem' hmem
  refine { issued := ?issued, nodup := ?nodup, place := ?place }
  case issued =>
    intro other key found hrow id hmem
    rcases hfound hrow with hrow | ⟨rfl, rfl, rfl⟩
    · exact (h.issued _ _ _ hrow id hmem).extend hext
    · rcases hids id hmem with hissued | ⟨before, hbefore, hmem'⟩
      · exact hissued.mono hstart
      · exact (h.issued _ _ _ hbefore id hmem').extend hext
  case nodup =>
    intro other key found hrow
    rcases hfound hrow with hrow | ⟨rfl, rfl, rfl⟩
    · exact h.nodup _ _ _ hrow
    · exact hnodup
  case place =>
    intro other other' key key' found found' hrow hrow' id hmem hmem'
    rcases hfound hrow with hrow | ⟨rfl, rfl, rfl⟩ <;>
      rcases hfound hrow' with hrow' | ⟨rfl, rfl, rfl⟩
    · exact h.place _ _ _ _ _ _ hrow hrow' id hmem hmem'
    · exact (hplace hrow hmem hmem').imp Eq.symm Eq.symm
    · exact hplace hrow' hmem' hmem
    · exact ⟨rfl, rfl⟩

/-- An edited row is put in the place of the row that it was made from. -/
theorem edit (h : Assigned start ids memory) (hstart : start.Extends ids) (hext : ids.Extends ids')
    (hinjective : Function.Injective ids'.name) {operation : Operation} {table : Table}
    {before after : table.Row} (hpresent : memory.row? table (table.key after) = some before)
    (hedit : Edit memory ids ids' operation table before after) :
    Assigned start ids' (memory.put table after) := by
  obtain ⟨kept, given, hkept, hgave, hperm⟩ := hedit.ids_perm hext
  refine h.put hstart hext hinjective ?_ fun id hmem => ?_
  · refine hperm.nodup_iff.mpr (List.Nodup.append ?_ (hgave.nodup hinjective) ?_)
    · exact (h.nodup _ _ _ hpresent).sublist hkept
    · -- what was there was drawn before, and what is new was not
      intro id hold hnew
      exact (hgave.issued id hnew).not_drawn hext hinjective
        (h.issued _ _ _ hpresent id (hkept.subset hold)).drawn
  · rcases List.mem_append.mp (hperm.subset hmem) with hold | hnew
    · exact Or.inr ⟨before, hpresent, hkept.subset hold⟩
    · exact Or.inl (hgave.issued id hnew)

/-- Whatever remains of a new instance has one id of its own. -/
theorem remains (h : Assigned start ids memory) (hstart : start.Extends ids)
    (hext : ids.Extends ids') (hinjective : Function.Injective ids'.name) {app : Instance}
    (hissued : ids.Issued ids' app.instanceId) (hgroups : app.groups = [])
    (snapshot : Snapshot) (row entry copy : Bool) :
    Assigned start ids' (memory.remains app snapshot row entry copy) := by
  have hids : Table.ids .instances app = [app.instanceId] := by
    show app.instanceId :: app.groups.flatMap GroupInstance.ids = _
    rw [hgroups]
    rfl
  refine Memory.remains_induction (motive := Assigned start ids') (h.later hext) (fun _ => ?_)
    (fun _ ih => ih.enter _ _ _) (fun _ ih => ?_) row entry copy
  · refine h.put hstart hext hinjective ?_ fun id hmem => Or.inl ?_
    · rw [hids]
      exact List.nodup_singleton _
    · rw [hids] at hmem
      exact List.mem_singleton.mp hmem ▸ hissued
  · exact ih.put (hstart.trans hext) (.refl ids') hinjective List.nodup_nil nofun

end Assigned

/-- **Every operation leaves each id in one place**, whatever is stopped, if ids do not repeat. -/
theorem Effect.assigned {world world' : World Memory} {trace : List Attempt} {operation : Operation}
    {succeeded : Bool} (heffect : Effect world world' trace operation succeeded) {start : IdSource}
    (hstart : start.Extends world.ids) (hext : world.ids.Extends world'.ids)
    (hinjective : Function.Injective world'.ids.name)
    (h : Assigned start world.ids world.store) : Assigned start world'.ids world'.store := by
  have hlater := h.later hext
  have hregister : ∀ {kind : ChildKind} {o : String} {row : kind.Row},
      NewRow world world' kind o row → Draft world.ids world'.ids operation kind row →
      Assigned start world'.ids (world.store.put kind.table row) := by
    intro kind o row new draft
    obtain ⟨hnodup, hissued⟩ := new.ids_issued draft hinjective
    exact h.put hstart hext hinjective hnodup fun id hmem => Or.inl (hissued id hmem)
  cases heffect with
  | unchanged store => exact store ▸ hlater
  | founded organization issued _ store =>
    rw [store]
    refine h.put hstart hext hinjective (List.nodup_singleton _) fun id hmem => Or.inl ?_
    exact List.mem_singleton.mp hmem ▸ issued
  | edited before after _ present _ store edit =>
    exact store ▸ h.edit hstart hext hinjective present edit
  | registered row _ new _ store draft => exact store ▸ (hregister new draft).enter _ _ _
  | stored row _ new _ store draft => exact store ▸ hregister new draft
  | removed _ _ _ _ _ store => exact store ▸ (hlater.drop _ _).leave _ _ _
  | @removedInstance o i app copy given _ _ _ store =>
    rw [store]
    exact Memory.removed_induction ((hlater.drop .instances i).leave o .appInstance i)
      (fun ih => ih.drop _ _) (fun _ ih => ih.drop _ _) copy given
  | dropped _ _ _ _ _ _ store => exact store ▸ hlater.drop _ _
  | unlisted _ _ _ store => exact store ▸ hlater.leave _ _ _
  | launched app snapshot parameters new _ _ _ _ store =>
    have hremains := h.remains hstart hext hinjective new.issued new.no_groups snapshot
      true true true
    rw [store]
    cases parameters with
    | none => exact hremains
    | some given =>
      exact hremains.put (hstart.trans hext) (.refl _) hinjective List.nodup_nil nofun
  | remaining app snapshot _ new row entry copy _ _ _ _ _ store =>
    exact store ▸ h.remains hstart hext hinjective new.issued new.no_groups snapshot row entry copy

/-! ### Ids in requests -/

/-- A service without its id. -/
def Service.withoutId (service : Service) : Service := { service with serviceId := "" }

/-- A group without its id and those of its services. -/
def ServiceGroup.withoutIds (group : ServiceGroup) : ServiceGroup :=
  { group with serviceGroupId := "", services := group.services.map Service.withoutId }

/-- A rule without its id. -/
def SecurityRule.withoutId (rule : SecurityRule) : SecurityRule := { rule with ruleId := "" }

/-- A request without the ids of its rules, groups and services. -/
def NewDescriptor.withoutIds (request : NewDescriptor) : NewDescriptor :=
  { request with
    rules := request.rules.map SecurityRule.withoutId
    groups := request.groups.map ServiceGroup.withoutIds }

/-- An edit without the ids of its groups and services. -/
def DescriptorEdit.withoutIds (edit : DescriptorEdit) : DescriptorEdit :=
  { edit with groups := edit.groups.map (·.map ServiceGroup.withoutIds) }

theorem ensureEach_map {α : Type} {rule : α → Except Violation Unit} {f : α → α}
    (h : ∀ x, rule (f x) = rule x) (xs : List α) :
    ensureEach rule (xs.map f) = ensureEach rule xs := by
  induction xs with
  | nil => rfl
  | cons x xs ih => rw [List.map_cons, ensureEach, ensureEach, h, ih]

/-- Rules for services say nothing of ids. -/
theorem validateServices_withoutId (groupName : String) (seen : List String)
    (services : List Service) :
    validateServices groupName seen (services.map Service.withoutId) =
      validateServices groupName seen services := by
  induction services generalizing seen with
  | nil => rfl
  | cons service rest ih => rw [List.map_cons, validateServices, validateServices, ih]; rfl

/-- Rules for groups say nothing of ids. -/
theorem validateGroups_withoutIds (seen : List String) (groups : List ServiceGroup) :
    validateGroups seen (groups.map ServiceGroup.withoutIds) = validateGroups seen groups := by
  induction groups generalizing seen with
  | nil => rfl
  | cons group rest ih =>
    have hname : group.withoutIds.name = group.name := rfl
    have hsome : ensure (group.withoutIds.services ≠ []) (.emptyGroup group.name) =
        ensure (group.services ≠ []) (.emptyGroup group.name) :=
      if_congr (not_congr List.map_eq_nil_iff) rfl rfl
    have hservices : validateServices group.name [] group.withoutIds.services =
        validateServices group.name [] group.services :=
      validateServices_withoutId group.name [] group.services
    rw [List.map_cons, validateGroups, validateGroups, hname, hsome, hservices, ih]

theorem validateServiceGroups_withoutIds (groups : List ServiceGroup) :
    validateServiceGroups (groups.map ServiceGroup.withoutIds) = validateServiceGroups groups := by
  have hsome : ensure (groups.map ServiceGroup.withoutIds ≠ []) .noGroups =
      ensure (groups ≠ []) .noGroups :=
    if_congr (not_congr List.map_eq_nil_iff) rfl rfl
  rw [validateServiceGroups, validateServiceGroups, hsome, validateGroups_withoutIds]

/-- A group is given the same ids and services, whatever ids it comes with. -/
theorem ServiceGroup.renewed_withoutIds (group : ServiceGroup) :
    group.withoutIds.renewed = group.renewed := by
  have hservices : (group.services.map Service.withoutId).mapM Service.renewed =
      group.services.mapM Service.renewed := List.mapM_map
  exact congrArg (fun services => Procedure.freshId >>= fun serviceGroupId =>
    services >>= fun services => pure { group with serviceGroupId, services }) hservices

theorem mapM_renewed_withoutIds (groups : List ServiceGroup) :
    (groups.map ServiceGroup.withoutIds).mapM ServiceGroup.renewed =
      groups.mapM ServiceGroup.renewed := by
  rw [List.mapM_map]
  exact congrArg (groups.mapM ·) (funext ServiceGroup.renewed_withoutIds)

/-- **The ids in a new descriptor make no difference** to what is validated, drawn, written and
answered. -/
theorem Descriptors.add_withoutIds (request : NewDescriptor) :
    Descriptors.add request.withoutIds = Descriptors.add request := by
  have hrules : (request.rules.map SecurityRule.withoutId).mapM SecurityRule.renewed =
      request.rules.mapM SecurityRule.renewed := List.mapM_map
  have hvalidate : request.withoutIds.validate = request.validate := by
    rw [NewDescriptor.validate, NewDescriptor.validate]
    dsimp only [NewDescriptor.withoutIds]
    rw [validateServiceGroups_withoutIds,
      ensureEach_map (f := SecurityRule.withoutId) (fun _ => rfl)]
  rw [Descriptors.add, Descriptors.add, hvalidate]
  dsimp only [NewDescriptor.withoutIds]
  rw [hrules, mapM_renewed_withoutIds]

/-- **The ids in an edit of a descriptor make no difference.** -/
theorem Descriptors.update_withoutIds (edit : DescriptorEdit) :
    Descriptors.update edit.withoutIds = Descriptors.update edit := by
  have hgroups : edit.withoutIds.groups = edit.groups.map (·.map ServiceGroup.withoutIds) := rfl
  have hrenewed : ∀ kept : List ServiceGroup,
      edit.withoutIds.groups.elim (pure kept) (·.mapM ServiceGroup.renewed) =
        edit.groups.elim (pure kept) (·.mapM ServiceGroup.renewed) := by
    intro kept
    rw [hgroups]
    cases edit.groups with
    | none => rfl
    | some groups => exact mapM_renewed_withoutIds groups
  have hvalidate : edit.withoutIds.validate = edit.validate := by
    have hgiven : ensureGiven validateServiceGroups edit.withoutIds.groups =
        ensureGiven validateServiceGroups edit.groups := by
      rw [hgroups]
      cases edit.groups with
      | none => rfl
      | some groups => exact validateServiceGroups_withoutIds groups
    rw [DescriptorEdit.validate, DescriptorEdit.validate, hgiven]
    rfl
  rw [Descriptors.update, Descriptors.update, hvalidate]
  simp only [hrenewed]
  rfl

/-! ### Runs -/

/-- No ids are assigned in the inventory. -/
theorem Table.Inventory.ids {table : Table} (h : table.Inventory) (row : table.Row) :
    table.ids row = [] := by
  cases table <;> first | rfl | exact h.elim

/-- Ids stay where they are whatever becomes of the inventory. -/
theorem Assigned.inventory {start ids : IdSource} {memory : Memory}
    (h : Assigned start ids memory) {call : Call} (haside : call.OnInventory) :
    Assigned start ids (memory.perform call).2 := by
  have hframe := (haside.frame memory).1
  -- a row with ids in it was there before
  have hbefore : ∀ {table key row id}, (memory.perform call).2.row? table key = some row →
      id ∈ table.ids row → memory.row? table key = some row := by
    intro table key row id hrow hmem
    by_cases htable : table.Inventory
    · rw [htable.ids] at hmem
      cases hmem
    · rwa [hframe table htable] at hrow
  refine { issued := ?issued, nodup := ?nodup, place := ?place }
  case issued =>
    intro table key row hrow id hmem
    exact h.issued table key row (hbefore hrow hmem) id hmem
  case nodup =>
    intro table key row hrow
    by_cases htable : table.Inventory
    · rw [htable.ids]
      exact List.nodup_nil
    · rw [hframe table htable] at hrow
      exact h.nodup table key row hrow
  case place =>
    intro table table' key key' row row' hrow hrow' id hmem hmem'
    exact h.place _ _ _ _ _ _ (hbefore hrow hmem) (hbefore hrow' hmem') id hmem hmem'

/-- **A step leaves each id in one place**, whatever is stopped, if ids do not repeat. -/
theorem Step.assigned {start : IdSource} {world world' : World Store} {happening : Happening}
    (h : Step world happening world') (hinjective : Function.Injective start.name)
    (hext : start.Extends world.ids)
    (hread : world.store.Faithful ∧ world.store.contents.Keyed)
    (hassigned : Assigned start world.ids world.store.contents) :
    Assigned start world'.ids world'.store.contents := by
  obtain ⟨hfaithful, hkeyed⟩ := hread
  cases happening with
  | operation event =>
    obtain ⟨time, heffect, -⟩ := h.effect hfaithful hkeyed
    have hinjective : Function.Injective world'.ids.name :=
      (hext.trans h.extends).name ▸ hinjective
    exact heffect.assigned hext h.extends hinjective hassigned
  | inventory call =>
    cases h with
    | inventory aside =>
      rw [(hfaithful.perform call).2.1]
      exact hassigned.inventory aside

/-- **After every run each id is in one place**, if ids do not repeat. -/
theorem Run.assigned {start world : World Store} {happenings : List Happening}
    (hfresh : start.store.Fresh) (hinjective : Function.Injective start.ids.name)
    (h : Run Step start happenings world) :
    Assigned start.ids world.ids world.store.contents := by
  induction h with
  | start =>
    rw [hfresh.contents_eq]
    exact .empty _
  | next before last ih =>
    exact last.assigned hinjective before.extends (before.faithful hfresh) ih

/-- All ids in the rows of all tables. -/
def assignedIds (rows : (table : Table) → List table.Row) : List String :=
  Table.all.flatMap fun table => (rows table).flatMap table.ids

/-- Ids that each are in one place are listed once. -/
theorem Assigned.nodup_assignedIds {start ids : IdSource} {memory : Memory}
    (h : Assigned start ids memory) :
    (assignedIds fun table => (memory.rows table).values).Nodup := by
  have hrow : ∀ {table : Table} {entry : String × table.Row}, entry ∈ (memory.rows table).toList →
      memory.row? table entry.1 = some entry.2 := OrderedMap.get?_eq_some_iff.mpr
  refine List.nodup_flatMap.mpr ⟨fun table _ => List.nodup_flatMap.mpr ⟨?row, ?rows⟩, ?tables⟩
  case row =>
    intro row hmem
    obtain ⟨key, hpresent⟩ := OrderedMap.mem_values_iff.mp hmem
    exact h.nodup table key row hpresent
  case rows =>
    -- rows of one table are under different keys
    refine List.pairwise_map.mpr ((memory.rows table).ascending.imp_of_mem ?_)
    intro entry entry' hmem hmem' hlt id hid hid'
    obtain ⟨-, heq⟩ := h.place _ _ _ _ _ _ (hrow hmem) (hrow hmem') id hid hid'
    exact String.lt_irrefl _ (heq ▸ hlt)
  case tables =>
    have hall : Table.all.Nodup := by decide
    refine hall.imp fun hne id hid hid' => ?_
    obtain ⟨row, hmem, hid⟩ := List.mem_flatMap.mp hid
    obtain ⟨row', hmem', hid'⟩ := List.mem_flatMap.mp hid'
    obtain ⟨key, hpresent⟩ := OrderedMap.mem_values_iff.mp hmem
    obtain ⟨key', hpresent'⟩ := OrderedMap.mem_values_iff.mp hmem'
    exact hne (h.place _ _ _ _ _ _ hpresent hpresent' id hid hid').1

/-- **Every id is assigned once**, and by the source of ids since the run began, after operations of
which any calls were stopped, from an empty registry and with ids in sequence.  Ids of rules, groups
and services that come with a request are never kept: the request does the same without them. -/
theorem ids_assigned_once {start world : World Store} {events : List Event} {stem : String}
    (hfresh : start.store.Fresh) (hsequential : start.ids.name = (IdSource.sequential stem).name)
    (h : Runs start events world) :
    (∃ rows : (table : Table) → List table.Row,
      (∀ table, world.store.rows table = .ok (rows table)) ∧ (assignedIds rows).Nodup ∧
        ∀ id ∈ assignedIds rows, start.ids.Issued world.ids id) ∧
    (∀ request : NewDescriptor, (Operation.addDescriptor request.withoutIds).procedure =
      (Operation.addDescriptor request).procedure) ∧
    ∀ edit : DescriptorEdit, (Operation.updateDescriptor edit.withoutIds).procedure =
      (Operation.updateDescriptor edit).procedure := by
  have hinjective : Function.Injective start.ids.name :=
    hsequential ▸ IdSource.sequential_injective stem
  obtain ⟨hfaithful, -⟩ := h.faithful hfresh
  obtain ⟨happenings, hrun⟩ := h.steps
  have hassigned := hrun.assigned hfresh hinjective
  refine ⟨⟨fun table => (world.store.contents.rows table).values, ?_, ?_, ?_⟩,
    Descriptors.add_withoutIds, Descriptors.update_withoutIds⟩
  · exact fun table => (hfaithful.perform (.list table)).1
  · exact hassigned.nodup_assignedIds
  · intro id hmem
    obtain ⟨table, -, hmem⟩ := List.mem_flatMap.mp hmem
    obtain ⟨row, hmem, hid⟩ := List.mem_flatMap.mp hmem
    obtain ⟨key, hpresent⟩ := OrderedMap.mem_values_iff.mp hmem
    exact hassigned.issued table key row hpresent id hid

/-- A cluster is left unlisted, and the groups of a descriptor are replaced by others that come with
ids which are taken. -/
theorem ids_assigned_once_of_replaced_groups :
    let start : World Store := { store := .memory .empty, ids := .sequential "id", clock := 0 }
    let service : Service := { (default : Service) with
      serviceId := "id-1", name := "api", image := "api:1" }
    let group : ServiceGroup := { (default : ServiceGroup) with
      serviceGroupId := "id-2", name := "web", services := [service] }
    let rule : SecurityRule := { (default : SecurityRule) with
      ruleId := "id-1", name := "open", targetPort := 80 }
    let steps : List (Operation × Int64 × List (Option StoreError)) :=
      [(.addOrganization { (default : NewOrganization) with name := "acme" }, 1, []),
        (.addDescriptor { (default : NewDescriptor) with
          organizationId := "id-1", name := "shop", rules := [rule], groups := [group] }, 2, []),
        (.addCluster { (default : NewCluster) with
          organizationId := "id-1", name := "north", hostname := "n" }, 3,
          [none, none, some (.write "down"), some (.write "down")]),
        (.addInstance { (default : NewInstance) with
          organizationId := "id-1", descriptorId := "id-2", name := "shop" }, 4, []),
        (.addGroupInstances { (default : NewGroupInstances) with
          organizationId := "id-1", descriptorId := "id-2", instanceId := "id-7"
          serviceGroupId := "id-4", replicaCount := 2 }, 5, []),
        (.addServiceInstance { (default : NewServiceInstance) with
          organizationId := "id-1", descriptorId := "id-2", instanceId := "id-7"
          serviceGroupId := "id-4", groupInstanceId := "id-8", serviceId := "id-5" }, 6, []),
        (.updateDescriptor { (default : DescriptorEdit) with
          organizationId := "id-1", descriptorId := "id-2", groups := some [group] }, 7, [])]
    let world := start.afterStopping steps
    ∃ events rows, Runs start events world ∧ (∀ table, world.store.rows table = .ok (rows table)) ∧
      assignedIds rows = ["id-1", "id-6", "id-2", "id-3", "id-11", "id-12", "id-7", "id-8", "id-10",
        "id-9"] ∧
      (assignedIds rows).Nodup ∧ ∀ id ∈ assignedIds rows, start.ids.Issued world.ids id := by
  intro start service group rule steps world
  have hstart : Runs start [] start := .start
  obtain ⟨events, hruns⟩ := hstart.afterStopping steps
  have hsequential : start.ids.name = (IdSource.sequential "id").name := rfl
  obtain ⟨⟨rows, hrows, hnodup, hissued⟩, -, -⟩ :=
    ids_assigned_once (Or.inl rfl) hsequential hruns
  have hids : assignedIds (fun table => (world.store.rows table).toOption.getD []) =
      ["id-1", "id-6", "id-2", "id-3", "id-11", "id-12", "id-7", "id-8", "id-10", "id-9"] := by
    decide +kernel
  have hread : (fun table => (world.store.rows table).toOption.getD []) = rows :=
    funext fun table => by rw [hrows table]; rfl
  exact ⟨events, rows, hruns, hrows, hread ▸ hids, hnodup, hissued⟩

end TenantRegistry
