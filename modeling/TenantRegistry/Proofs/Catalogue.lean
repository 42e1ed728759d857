/-
TenantRegistry/Proofs/Catalogue.lean

The groups that are on offer.

A group of services stands in a descriptor, and in the snapshots that were
taken of the descriptor while it had the group.  An edit of the descriptor
takes the group out of it, but not out of the snapshots.

A group is given its id when it is written, and the id is a fresh one.  So an
operation offers no group but those that it gave fresh ids and those that were
on offer before (`Effect.offers`), and an id stands for the same group wherever
it appears (`Catalogued`), if ids do not repeat.
-/
import Mathlib.Data.List.Pairwise
import TenantRegistry.Proofs.Operations

namespace TenantRegistry

/-- The groups of services in a row. -/
def Table.groups : (table : Table) → table.Row → List ServiceGroup
  | .descriptors, descriptor => descriptor.groups
  | .snapshots, snapshot => snapshot.groups
  | _, _ => []

/-! ### Groups on offer -/

namespace Memory

/-- Some row has the group. -/
def Offers (memory : Memory) (group : ServiceGroup) : Prop :=
  ∃ table key row, memory.row? table key = some row ∧ group ∈ table.groups row

variable {memory : Memory} {group : ServiceGroup}

theorem not_offers_empty : ¬ empty.Offers group := by
  rintro ⟨table, key, row, hrow, -⟩
  rw [row?_empty] at hrow
  cases hrow

theorem Offers.of_put {table : Table} {row : table.Row} (h : (memory.put table row).Offers group) :
    group ∈ table.groups row ∨ memory.Offers group := by
  obtain ⟨other, key, found, hfound, hmem⟩ := h
  by_cases hother : other = table
  · subst hother
    rw [row?_put_self] at hfound
    split at hfound
    · cases hfound
      exact Or.inl hmem
    · exact Or.inr ⟨other, key, found, hfound, hmem⟩
  · rw [row?_put_of_ne _ _ hother] at hfound
    exact Or.inr ⟨other, key, found, hfound, hmem⟩

theorem Offers.of_drop {table : Table} {dropped : String}
    (h : (memory.drop table dropped).Offers group) : memory.Offers group := by
  obtain ⟨other, key, found, hfound, hmem⟩ := h
  exact ⟨other, key, found, row?_of_drop hfound, hmem⟩

theorem Offers.of_enter {o : String} {kind : ChildKind} {c : String}
    (h : (memory.enter o kind c).Offers group) : memory.Offers group := h

theorem Offers.of_leave {o : String} {kind : ChildKind} {c : String}
    (h : (memory.leave o kind c).Offers group) : memory.Offers group := h

/-- What remains of an instance offers the groups of its snapshot. -/
theorem Offers.of_remains {app : Instance} {snapshot : Snapshot} {row entry copy : Bool}
    (h : (memory.remains app snapshot row entry copy).Offers group) :
    group ∈ snapshot.groups ∨ memory.Offers group := by
  revert h
  refine remains_induction
    (motive := fun after => after.Offers group → group ∈ snapshot.groups ∨ memory.Offers group)
    Or.inr ?_ (fun _ ih h => ih h.of_enter) (fun _ ih h => h.of_put.elim Or.inl ih) row entry copy
  -- an instance has no groups of services
  exact fun _ h => Or.inr (h.of_put.resolve_left List.not_mem_nil)

end Memory

/-! ### Groups of rows that are written -/

section Written

variable {memory : Memory} {ids ids' : IdSource} {operation : Operation}

/-- All groups of a new row were given fresh ids. -/
theorem Draft.gave_groups {kind : ChildKind} {row : kind.Row}
    (h : Draft ids ids' operation kind row) (hext : ids.Extends ids') :
    ids.Gave ids' ((kind.table.groups row).flatMap ServiceGroup.ids) := by
  cases h with
  | cluster => exact hext.gave_nil
  | node => exact hext.gave_nil
  | user => exact hext.gave_nil
  | role => exact hext.gave_nil
  | descriptor request descriptorId rules groups created gave =>
    have gave : ids.Gave ids' ((descriptorId :: rules.map (·.ruleId)) ++
        groups.flatMap ServiceGroup.ids) := gave
    exact gave.of_append

/-- An edit keeps the groups of a row, or all of them were given fresh ids. -/
theorem Edit.groups {table : Table} {before after : table.Row}
    (h : Edit memory ids ids' operation table before after) :
    table.groups after = table.groups before ∨
      ids.Gave ids' ((table.groups after).flatMap ServiceGroup.ids) := by
  cases h with
  | descriptor valid fetched renewed => exact renewed
  | _ => exact Or.inl rfl

end Written

/-- **An operation offers no group but those that it gave fresh ids**, and those that were on
offer before. -/
theorem Effect.offers {world world' : World Memory} {trace : List Attempt} {operation : Operation}
    {succeeded : Bool} (heffect : Effect world world' trace operation succeeded)
    (hext : world.ids.Extends world'.ids) :
    ∃ groups : List ServiceGroup, world.ids.Gave world'.ids (groups.flatMap ServiceGroup.ids) ∧
      ∀ group, world'.store.Offers group → group ∈ groups ∨ world.store.Offers group := by
  -- most operations offer no new group at all
  have hsame : ∀ {memory : Memory}, world'.store = memory →
      (∀ group, memory.Offers group → world.store.Offers group) →
      ∃ groups : List ServiceGroup, world.ids.Gave world'.ids (groups.flatMap ServiceGroup.ids) ∧
        ∀ group, world'.store.Offers group → group ∈ groups ∨ world.store.Offers group := by
    rintro _ rfl h
    refine ⟨[], hext.gave_nil, fun group hafter => ?_⟩
    exact Or.inr (h group hafter)
  -- the groups of a snapshot are those of its descriptor
  have hcopied : ∀ {o : String} {app : Instance} {snapshot : Snapshot}
      {parameters : Option InstanceParameters},
      NewInstanceRows world world' o app snapshot parameters →
      ∀ group ∈ snapshot.groups, world.store.Offers group := by
    intro o app snapshot parameters new group hmem
    obtain ⟨descriptor, deviceGroups, hrow, -, hsnapshot⟩ := new.descriptor
    obtain ⟨-, -, -, hgroups⟩ := Instances.snapshot_ok hsnapshot
    have hmem : group ∈ descriptor.groups := hgroups ▸ hmem
    exact ⟨.descriptors, _, descriptor, hrow, hmem⟩
  cases heffect with
  | unchanged store => exact hsame store fun _ h => h
  | founded organization _ _ store =>
    exact hsame store fun _ h => h.of_put.resolve_left List.not_mem_nil
  | @edited _ table before after _ present _ store edit =>
    rcases edit.groups with hkept | hgave
    · refine hsame store fun group h => h.of_put.elim (fun hmem => ?_) id
      exact ⟨table, _, before, present, hkept ▸ hmem⟩
    · rw [store]
      exact ⟨_, hgave, fun _ h => h.of_put⟩
  | registered row _ _ _ store draft =>
    rw [store]
    exact ⟨_, draft.gave_groups hext, fun _ h => h.of_enter.of_put⟩
  | stored row _ _ _ store draft =>
    rw [store]
    exact ⟨_, draft.gave_groups hext, fun _ h => h.of_put⟩
  | removed row _ _ _ _ store => exact hsame store fun _ h => h.of_leave.of_drop
  | removedInstance app copy given _ _ _ store =>
    refine hsame store fun group => ?_
    exact Memory.removed_induction (motive := fun after => after.Offers group → _)
      (fun h => h.of_leave.of_drop) (fun ih h => ih h.of_drop) (fun _ ih h => ih h.of_drop) copy
      given
  | dropped row _ _ _ _ _ store => exact hsame store fun _ h => h.of_drop
  | unlisted _ _ _ store => exact hsame store fun _ h => h.of_leave
  | launched app snapshot parameters new _ _ _ _ store =>
    refine hsame store fun group h => ?_
    have h : (world.store.remains app snapshot true true true).Offers group := by
      cases parameters with
      | none => exact h
      | some given => exact h.of_put.resolve_left List.not_mem_nil
    exact h.of_remains.elim (hcopied new group) id
  | remaining app snapshot _ new row entry copy _ _ _ _ _ store =>
    exact hsame store fun group h => h.of_remains.elim (hcopied new group) id

/-! ### One group for each id -/

/-- Ids of groups were drawn, and none of them stands for two groups. -/
structure Catalogued (ids : IdSource) (memory : Memory) : Prop where
  drawn : ∀ group, memory.Offers group → ids.Drawn group.serviceGroupId
  unique : ∀ group group', memory.Offers group → memory.Offers group' →
    group.serviceGroupId = group'.serviceGroupId → group = group'

namespace Catalogued

variable {ids ids' : IdSource} {memory after : Memory}

theorem empty (ids : IdSource) : Catalogued ids .empty where
  drawn _ h := absurd h Memory.not_offers_empty
  unique _ _ h := absurd h Memory.not_offers_empty

/-- Groups of which all ids were given at once are told apart by their own ids. -/
theorem eq_of_gave {groups : List ServiceGroup}
    (hgave : ids.Gave ids' (groups.flatMap ServiceGroup.ids))
    (hinjective : Function.Injective ids'.name) {group group' : ServiceGroup}
    (hmem : group ∈ groups) (hmem' : group' ∈ groups)
    (hid : group.serviceGroupId = group'.serviceGroupId) : group = group' := by
  obtain ⟨-, hdisjoint⟩ := List.nodup_flatMap.mp (hgave.nodup hinjective)
  have : Std.Symm (Function.onFun List.Disjoint ServiceGroup.ids) :=
    ⟨fun _ _ => List.disjoint_symm⟩
  -- two groups of the list have no id in common, and these two have their own
  by_contra hne
  have hapart : List.Disjoint group.ids group'.ids := hdisjoint.forall hmem hmem' hne
  have hown : group.serviceGroupId ∈ group.ids := List.mem_cons_self
  have hown' : group'.serviceGroupId ∈ group'.ids := List.mem_cons_self
  exact hapart hown (hid ▸ hown')

/-- More groups are on offer, all of them under fresh ids. -/
theorem more (h : Catalogued ids memory) (hext : ids.Extends ids')
    (hinjective : Function.Injective ids'.name) {groups : List ServiceGroup}
    (hgave : ids.Gave ids' (groups.flatMap ServiceGroup.ids))
    (hafter : ∀ group, after.Offers group → group ∈ groups ∨ memory.Offers group) :
    Catalogued ids' after := by
  have hissued : ∀ group ∈ groups, ids.Issued ids' group.serviceGroupId := by
    intro group hmem
    exact hgave.issued _ (List.mem_flatMap.mpr ⟨group, hmem, List.mem_cons_self⟩)
  -- a fresh id is of no group that was on offer before
  have hnew : ∀ group group', group ∈ groups → memory.Offers group' →
      group.serviceGroupId ≠ group'.serviceGroupId := by
    intro group group' hmem hbefore heq
    refine (hissued group hmem).not_drawn hext hinjective ?_
    exact heq ▸ h.drawn group' hbefore
  refine { drawn := ?drawn, unique := ?unique }
  case drawn =>
    intro group hoffers
    rcases hafter group hoffers with hmem | hbefore
    · exact (hissued group hmem).drawn
    · exact (h.drawn group hbefore).later hext
  case unique =>
    intro group group' hoffers hoffers' hid
    rcases hafter group hoffers with hmem | hbefore <;>
      rcases hafter group' hoffers' with hmem' | hbefore'
    · exact eq_of_gave hgave hinjective hmem hmem' hid
    · exact absurd hid (hnew group group' hmem hbefore')
    · exact absurd hid.symm (hnew group' group hmem' hbefore)
    · exact h.unique group group' hbefore hbefore' hid

end Catalogued

/-- **Every operation keeps one group for each id**, whatever is stopped. -/
theorem Effect.catalogued {world world' : World Memory} {trace : List Attempt}
    {operation : Operation} {succeeded : Bool}
    (heffect : Effect world world' trace operation succeeded)
    (hext : world.ids.Extends world'.ids) (hinjective : Function.Injective world'.ids.name)
    (h : Catalogued world.ids world.store) : Catalogued world'.ids world'.store := by
  obtain ⟨groups, hgave, hafter⟩ := heffect.offers hext
  exact h.more hext hinjective hgave hafter

end TenantRegistry
