/-
TenantRegistry/Proofs/Orphans.lean

What is stored is listed.

A row that no entry of the index names is an orphan: nobody can fetch, list or
remove it.  An operation leaves none behind if at most one of its calls is
stopped.  It has two writes to make, and when the second fails it undoes the
first, so that two calls have to fail for a row to stay without its entry.

A call may fail without being stopped, though.  An entry that an earlier
operation left behind makes storage refuse to enter a child again, and then the
undo is the one call that is stopped.  So what the index holds under an id that
is new has to be known, and that is nothing (`Guarded`); and an address that is
listed already is listed still, for the user whose row stays.

Descriptors are not undone, and may be orphans.

Main result: `rows_are_listed`.
-/
import TenantRegistry.Proofs.ForeignRemovals

namespace TenantRegistry

open Procedure

/-! ### The invariant -/

/-- **A row is listed for whom it belongs to**, unless it is a descriptor, and its owner is
there. -/
structure Listed (memory : Memory) : Prop where
  organizations : ∀ (kind : ChildKind) c o, memory.ownerAt kind.table c = some (some o) →
    memory.row? .organizations o ≠ none
  rows : ∀ kind c o, kind ≠ .descriptor → memory.ownerAt kind.table c = some (some o) →
    memory.hasChild o kind c = true

namespace Listed

variable {memory : Memory} {kind : ChildKind} {o c : String} {table : Table}

theorem empty : Listed .empty where
  organizations kind c o h := by
    rw [Memory.ownerAt_empty] at h
    cases h
  rows kind c o _ h := by
    rw [Memory.ownerAt_empty] at h
    cases h

/-- A row is put whose owner is there, and which is listed. -/
theorem put (h : Listed memory) {row : table.Row}
    (hrow : ∀ kind o, ChildKind.table kind = table → table.owner? row = some o →
      memory.row? .organizations o ≠ none ∧
        (kind ≠ .descriptor → memory.hasChild o kind (table.key row) = true)) :
    Listed (memory.put table row) := by
  refine { organizations := ?organizations, rows := ?rows }
  case organizations =>
    intro kind c o howner
    have hthere : memory.row? .organizations o ≠ none := by
      rw [Memory.ownerAt_put] at howner
      split at howner
      · next heq => exact (hrow kind o heq.1 (Option.some.inj howner)).1
      · exact h.organizations kind c o howner
    -- an organization that is there stays
    by_cases htable : table = .organizations
    · subst htable
      rw [Memory.row?_put_self]
      split
      · exact nofun
      · exact hthere
    · rwa [Memory.row?_put_of_ne _ _ (Ne.symm htable)]
  case rows =>
    intro kind c o hkind howner
    rw [Memory.ownerAt_put] at howner
    split at howner
    · next heq =>
      obtain ⟨htable, rfl⟩ := heq
      exact (hrow kind o htable (Option.some.inj howner)).2 hkind
    · exact h.rows kind c o hkind howner

/-- A row is put that is of no kind. -/
theorem put_aside (h : Listed memory) (htable : ∀ kind : ChildKind, kind.table ≠ table)
    (row : table.Row) : Listed (memory.put table row) :=
  h.put fun kind _ heq => absurd heq (htable kind)

theorem enter (h : Listed memory) (o : String) (kind : ChildKind) (c : String) :
    Listed (memory.enter o kind c) where
  organizations := h.organizations
  rows kind' c' o' hkind howner :=
    Memory.hasChild_enter_iff.mpr (Or.inr (h.rows kind' c' o' hkind howner))

/-- A row goes. -/
theorem drop (h : Listed memory) (htable : table ≠ .organizations) (dropped : String) :
    Listed (memory.drop table dropped) := by
  have hbefore : ∀ {kind : ChildKind} {c owner},
      (memory.drop table dropped).ownerAt kind.table c = some owner →
      memory.ownerAt kind.table c = some owner := by
    intro kind c owner howner
    rw [Memory.ownerAt_drop] at howner
    split at howner
    · cases howner
    · exact howner
  refine { organizations := ?organizations, rows := ?rows }
  case organizations =>
    intro kind c o howner
    rw [Memory.row?_drop_of_ne _ _ (Ne.symm htable)]
    exact h.organizations kind c o (hbefore howner)
  case rows =>
    intro kind c o hkind howner
    exact h.rows kind c o hkind (hbefore howner)

/-- An entry goes that names no row of the organization. -/
theorem leave (h : Listed memory) (ho : Plain o) (hc : Plain c)
    (hgone : memory.ownerAt kind.table c ≠ some (some o)) : Listed (memory.leave o kind c) where
  organizations := h.organizations
  rows kind' c' o' hkind howner := by
    refine Memory.hasChild_leave_iff.mpr ⟨fun heq => hgone ?_, h.rows kind' c' o' hkind howner⟩
    obtain ⟨rfl, rfl, rfl⟩ := IndexKey.eq_of_entry_eq ho hc heq.symm
    exact howner

/-- A row goes, and then its entry. -/
theorem remove (h : Listed memory) (kind : ChildKind) (ho : Plain o) (hc : Plain c) :
    Listed ((memory.drop kind.table c).leave o kind c) := by
  refine (h.drop kind.table_ne_organizations c).leave ho hc ?_
  rw [Memory.ownerAt_drop, if_pos ⟨rfl, rfl⟩]
  exact nofun

/-- A row and its entry. -/
theorem register (h : Listed memory) (kind : ChildKind) (row : kind.Row)
    (ho : memory.row? .organizations o ≠ none) (howner : kind.table.owner? row = some o) :
    Listed ((memory.put kind.table row).enter o kind (kind.table.key row)) := by
  -- the order of the two does not matter, and a row that is listed may come
  show Listed ((memory.enter o kind (kind.table.key row)).put kind.table row)
  refine (h.enter o kind (kind.table.key row)).put fun kind' o' htable howner' => ?_
  obtain rfl := ChildKind.table_inj htable
  obtain rfl : o' = o := Option.some.inj (howner'.symm.trans howner)
  exact ⟨ho, fun _ => Memory.hasChild_enter_iff.mpr (Or.inl rfl)⟩

end Listed

/-! ### Operations -/

/-- What an organization that is there registers, it can own. -/
theorem NewRow.organization_ne_none {world world' : World Memory} {kind : ChildKind} {o : String}
    {row : kind.Row} (h : NewRow world world' kind o row) :
    world.store.row? .organizations o ≠ none :=
  Option.isSome_iff_ne_none.mp h.organization

/-- **An operation of which one call is stopped leaves no row without its entry**, if it found none,
and ids do not repeat. -/
theorem Effect.listed {world world' : World Memory} {trace : List Attempt} {operation : Operation}
    {succeeded : Bool} {stuck : String → Prop}
    (heffect : Effect world world' trace operation succeeded) (hone : stops trace ≤ 1)
    (hext : world.ids.Extends world'.ids) (hinjective : Function.Injective world'.ids.name)
    (hguarded : Guarded world.ids stuck world.store) (h : Listed world.store) :
    Listed world'.store := by
  have htwo : ¬ 2 ≤ stops trace := Nat.not_le.mpr (Nat.lt_succ_of_le hone)
  cases heffect with
  | unchanged store => exact store ▸ h
  | founded organization _ _ store =>
    exact store ▸ h.put_aside ChildKind.table_ne_organizations organization
  | edited before after _ present owner store =>
    rw [store]
    refine h.put fun kind o htable howner => ?_
    subst htable
    have hbefore := Memory.ownerAt_of_row? present
    rw [← owner, howner] at hbefore
    exact ⟨h.organizations kind _ o hbefore, fun hkind => h.rows kind _ o hkind hbefore⟩
  | registered row _ new _ store =>
    exact store ▸ h.register _ row new.organization_ne_none new.owner
  | @stored _ kind o row _ new cause store =>
    rw [store]
    refine h.put fun kind' o' htable howner => ?_
    obtain rfl := ChildKind.table_inj htable
    obtain rfl : o' = o := Option.some.inj (howner.symm.trans new.owner)
    refine ⟨new.organization_ne_none, fun hkind => ?_⟩
    -- the undo was the one call that was stopped, as the row was listed before
    rcases cause with hlisted | ⟨hdescriptor, -⟩ | hstops
    · exact hlisted
    · exact absurd hdescriptor hkind
    · exact absurd hstops htwo
  | removed row _ listed _ _ store =>
    obtain ⟨ho, hc, -⟩ := hguarded.of_hasChild listed
    exact store ▸ h.remove _ ho hc
  | @removedInstance o c app copy given listed _ _ store =>
    rw [store]
    obtain ⟨ho, hc, -⟩ := hguarded.of_hasChild listed
    exact Memory.removed_induction (h.remove .appInstance ho hc)
      (fun h => h.drop (by decide) c) (fun _ h => h.drop (by decide) c) copy given
  | @dropped kind _ c _ _ _ _ _ _ store => exact store ▸ h.drop kind.table_ne_organizations c
  | @unlisted o c listed _ cause store =>
    rw [store]
    obtain ⟨ho, hc, -⟩ := hguarded.of_hasChild listed
    refine h.leave ho hc fun howner => ?_
    rcases cause with habsent | hmissing | hstops
    · cases (Memory.ownerAt_eq_none.mpr habsent).symm.trans howner
    · exact h.organizations .cluster c o howner hmissing
    · exact htwo hstops
  | launched app snapshot parameters new _ _ _ _ store =>
    rw [store]
    have ho : world.store.row? .organizations app.organizationId ≠ none :=
      new.owner ▸ Option.isSome_iff_ne_none.mp new.organization
    have hregistered := h.register .appInstance app ho rfl
    have hremains : Listed (world.store.remains app snapshot true true true) :=
      hregistered.put_aside ChildKind.table_ne_snapshots snapshot
    cases parameters with
    | none => exact hremains
    | some given => exact hremains.put_aside ChildKind.table_ne_parameters given
  | remaining app snapshot parameters new row entry copy _ _ _ _ cause store =>
    -- nothing is in the way of a new id
    have hkind : ChildKind.appInstance ≠ .user := by decide
    have habsent : ∀ {table}, ChildKind.Holds .appInstance table →
        world.store.row? table app.instanceId = none := fun htable =>
      hguarded.absent_of_issued new.issued hext hinjective hkind htable
    rcases cause with hstops | hlisted | hsnapshot | hparameters
    · exact absurd hstops htwo
    · cases hlisted.symm.trans (hguarded.unlisted_of_issued new.issued hext hinjective hkind)
    · exact absurd (habsent ChildKind.holds_snapshots) hsnapshot
    · exact absurd (habsent ChildKind.holds_parameters) hparameters

/-! ### Runs -/

/-- **Rows are listed after every run** in which each operation had at most one of its calls
stopped. -/
theorem Runs.listed {start world : World Store} {events : List Event}
    (hfresh : start.store.Fresh) (hplain : ∀ n, Plain (start.ids.name n))
    (hinjective : Function.Injective start.ids.name) (h : Runs start events world)
    (hone : ∀ event ∈ events, stops event.trace ≤ 1) : Listed world.store.contents := by
  induction h with
  | start => exact hfresh.contents_eq ▸ .empty
  | @step events world world' operation time trace result before ends ih =>
    obtain ⟨hlast, hearlier⟩ := List.forall_mem_cons.mp hone
    obtain ⟨hfaithful, hguarded⟩ := before.guarded hfresh hplain hinjective
    obtain ⟨heffect, -⟩ := Operation.effect_contents ends hfaithful hguarded.keyed
    -- all ids of a run are named by the source that it began with
    have hname := (before.step ends).extends.name
    exact heffect.listed hlast (Program.Ends.extends ends).1 (hname ▸ hinjective) hguarded
      (ih hearlier)

/-- Every child has an owner. -/
theorem ChildKind.exists_owner (kind : ChildKind) (row : kind.Row) :
    ∃ o, kind.table.owner? row = some o := by
  cases kind <;> exact ⟨_, rfl⟩

/-- **Every row that is stored is listed for its owner, who can fetch it**, unless it is a
descriptor: after operations each of which had at most one call stopped, from an empty registry and
with plain ids that do not repeat. -/
theorem rows_are_listed {start world : World Store} {events : List Event}
    (hfresh : start.store.Fresh) (hplain : ∀ n, Plain (start.ids.name n))
    (hinjective : Function.Injective start.ids.name) (h : Runs start events world)
    (hone : ∀ event ∈ events, stops event.trace ≤ 1) {kind : ChildKind}
    (hkind : kind ≠ .descriptor) :
    ∃ rows, world.store.rows kind.table = .ok rows ∧ ∀ row ∈ rows,
      ∃ o, kind.table.owner? row = some o ∧
        (world.store.perform (.hasChild o kind (kind.table.key row))).1 = .ok true ∧
        ((Operation.get kind o (kind.table.key row)).procedure.runWith .store world).1 =
          .ok row := by
  obtain ⟨hfaithful, hkeyed⟩ := h.faithful hfresh
  have hlisted := h.listed hfresh hplain hinjective hone
  refine ⟨_, (hfaithful.perform (.list kind.table)).1, fun row hmem => ?_⟩
  obtain ⟨key, hrow⟩ := OrderedMap.mem_values_iff.mp hmem
  have hrow := hkeyed.self hrow
  obtain ⟨o, howner⟩ := kind.exists_owner row
  have hentry : world.store.contents.hasChild o kind (kind.table.key row) = true :=
    hlisted.rows kind _ o hkind (Memory.ownerAt_eq_some.mpr ⟨row, hrow, howner⟩)
  exact ⟨o, howner, hfaithful.hasChild_eq_ok.mpr hentry,
    ChildKind.runWith_get_of_fetched hfaithful ⟨hentry, hrow, howner⟩⟩

/-- A user is removed whose entry stays, and added again, which fails and cannot be undone; and a
descriptor is added that is not listed. -/
theorem rows_are_listed_of_stopped_undo :
    let start : World Store := { store := .memory .empty, ids := .sequential "id", clock := 0 }
    let service : Service := { (default : Service) with name := "api", image := "api:1" }
    let group : ServiceGroup :=
      { (default : ServiceGroup) with name := "web", services := [service] }
    let down : Option StoreError := some (.write "down")
    let sam : Operation := .addUser { organizationId := "id-1", email := "sam@acme", name := "Sam" }
    let steps : List (Operation × Int64 × List (Option StoreError)) :=
      [(.addOrganization { (default : NewOrganization) with name := "acme" }, 1, []),
        (sam, 2, []),
        (.remove .user "id-1" "sam@acme", 3, [none, none, down]),
        (sam, 4, [none, none, none, down]),
        (.addDescriptor { (default : NewDescriptor) with
          organizationId := "id-1", name := "shop", groups := [group] }, 5, [none, none, down])]
    let world := start.afterStopping steps
    ∃ events users, Runs start events world ∧ (∀ event ∈ events, stops event.trace ≤ 1) ∧
      (∃ descriptor ∈ (world.store.rows .descriptors).toOption.getD [],
        world.store.contents.hasChild "id-1" .descriptor descriptor.descriptorId = false) ∧
      world.store.rows .users = .ok users ∧ users.map (·.email) = ["sam@acme"] ∧
      ∀ user ∈ users, ((Operation.get .user user.organizationId user.email).procedure.runWith .store
        world).1 = .ok user := by
  intro start service group down sam steps world
  have hstart : Runs start [] start := .start
  obtain ⟨events, hruns, hone⟩ :=
    hstart.afterStopping_once (List.forall_mem_nil _) steps (by decide +kernel)
  have hplain : ∀ n, Plain (start.ids.name n) := IdSource.plain_sequential (by decide)
  have hkind : ChildKind.user ≠ .descriptor := by decide
  obtain ⟨users, husers, hlisted⟩ := rows_are_listed (Or.inl rfl) hplain
    (IdSource.sequential_injective "id") hruns hone hkind
  have hdescriptor : ∃ descriptor ∈ (world.store.rows .descriptors).toOption.getD [],
      world.store.contents.hasChild "id-1" .descriptor descriptor.descriptorId = false := by
    decide +kernel
  have hsam : (world.store.rows .users).toOption.map (List.map User.email) = some ["sam@acme"] := by
    decide +kernel
  rw [husers] at hsam
  refine ⟨events, users, hruns, hone, hdescriptor, husers, Option.some.inj hsam, ?_⟩
  intro user hmem
  obtain ⟨_, ⟨⟩, -, hget⟩ := hlisted user hmem
  exact hget

end TenantRegistry
