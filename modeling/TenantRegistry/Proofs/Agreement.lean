/-
TenantRegistry/Proofs/Agreement.lean

Listings agree with tables.

What an organization owns can be found in two ways: through the index, and by
a look at a whole table.  When no call is stopped, both find the same rows in
the same order, after any operations whatever and however ids repeat, as long
as they are plain.  The rows of an instance are then all there or all gone.

Both ways ascend by key, and so it is enough that they find the same keys
(`childIds_eq`); a listing then finds a row for every id (`runWith_getAll`).

Main result: `agreement_afterAll`.
-/
import TenantRegistry.Proofs.Runs

namespace TenantRegistry

open Procedure

namespace Memory

variable {memory : Memory} {o : String} {kind : ChildKind}

/-! ### Rows in the order of their keys -/

theorem Keyed.map_key_values (h : memory.Keyed) (table : Table) :
    (memory.rows table).values.map table.key = (memory.rows table).keys := by
  rw [OrderedMap.values, OrderedMap.keys, List.map_map]
  exact List.map_congr_left fun entry hentry =>
    h table entry.1 entry.2 (OrderedMap.get?_eq_some_iff.mpr hentry)

theorem Keyed.mem_values_iff (h : memory.Keyed) {table : Table} {row : table.Row} :
    row ∈ (memory.rows table).values ↔ memory.row? table (table.key row) = some row := by
  refine OrderedMap.mem_values_iff.trans ⟨fun ⟨key, hrow⟩ => ?_, fun hrow => ⟨_, hrow⟩⟩
  exact h.self hrow

/-- The rows of a table that belong to an organization. -/
def ownedRows (memory : Memory) (table : Table) (o : String) : List table.Row :=
  (memory.rows table).values.filter fun row => table.owner? row = some o

theorem Keyed.mem_ownedRows_iff (h : memory.Keyed) {table : Table} {row : table.Row} :
    row ∈ memory.ownedRows table o ↔
      memory.row? table (table.key row) = some row ∧ table.owner? row = some o := by
  rw [ownedRows, List.mem_filter, h.mem_values_iff, decide_eq_true_eq]

theorem Keyed.pairwise_ownedRows (h : memory.Keyed) (table : Table) (o : String) :
    ((memory.ownedRows table o).map table.key).Pairwise (· < ·) := by
  have hkeys : ((memory.rows table).values.map table.key).Pairwise (· < ·) := by
    rw [h.map_key_values]
    exact (memory.rows table).pairwise_keys
  exact hkeys.sublist (List.filter_sublist.map _)

/-! ### Listings -/

/-- **The index lists the keys of the rows that an organization owns.** -/
theorem childIds_eq (h : Indexed memory) (ho : memory.ownerAt .organizations o ≠ none) :
    memory.listChildren o kind = .ok ((memory.ownedRows kind.table o).map kind.table.key) := by
  have hthere : memory.hasOrganization o = true :=
    Option.isSome_iff_ne_none.mpr (mt ownerAt_eq_none.mpr ho)
  rw [listChildren_eq, if_pos hthere]
  -- both lists ascend, and so it is enough that they have the same members
  refine congrArg Except.ok (List.Pairwise.eq_of_mem_iff (memory.pairwise_listedIds o kind)
    (h.keyed.pairwise_ownedRows _ o) fun c => ?_)
  rw [Memory.mem_listedIds_iff, List.mem_map]
  constructor
  · intro hlisted
    obtain ⟨row, hrow, howner⟩ := ownerAt_eq_some.mp (h.of_hasChild hlisted).1
    have hkey := h.keyed _ _ _ hrow
    exact ⟨row, h.keyed.mem_ownedRows_iff.mpr ⟨by rwa [hkey], howner⟩, hkey⟩
  · rintro ⟨row, hmem, rfl⟩
    obtain ⟨hrow, howner⟩ := h.keyed.mem_ownedRows_iff.mp hmem
    exact h.listed kind _ o (ownerAt_eq_some.mpr ⟨row, hrow, howner⟩)

end Memory

variable {world : World Memory} {o : String} {kind : ChildKind}

/-- To fetch rows by ids is to find them all, if all are there. -/
theorem runWith_getAll {rows : List kind.Row}
    (hrows : ∀ row ∈ rows, world.store.row? kind.table (kind.table.key row) = some row ∧
      kind.table.owner? row = some o) :
    (kind.getAll o (rows.map kind.table.key)).runWith .memory world = (.ok rows, world) := by
  induction rows with
  | nil => rfl
  | cons row rest ih =>
    obtain ⟨⟨hrow, howner⟩, hrest⟩ := List.forall_mem_cons.mp hrows
    have hget : Memory.perform (.get kind.table (kind.table.key row)) world.store =
        (.ok row, world.store) := by
      rw [Memory.perform_get, hrow]
      rfl
    rw [List.map_cons, ChildKind.getAll, runWith_bind_ok (runWith_attempt hget)]
    -- the row is found, and it is of the organization that asks
    have hcheck : (kind.checkOwner o row).runWith .memory world = (.ok (), world) := by
      rw [ChildKind.checkOwner, if_pos howner]
      rfl
    dsimp only
    rw [runWith_bind_ok hcheck, runWith_bind_ok (ih hrest)]
    rfl

/-- **To list is to find the rows that an organization owns.** -/
theorem runWith_list (h : Indexed world.store)
    (ho : world.store.ownerAt .organizations o ≠ none) :
    (kind.list o).runWith .memory world = (.ok (world.store.ownedRows kind.table o), world) := by
  have hids : Memory.perform (.listChildren o kind) world.store =
      (.ok ((world.store.ownedRows kind.table o).map kind.table.key), world.store) :=
    congrArg (·, world.store) (Memory.childIds_eq h ho)
  rw [ChildKind.list, runWith_bind_ok (runWith_perform hids)]
  exact runWith_getAll fun row hrow => h.keyed.mem_ownedRows_iff.mp hrow

/-! ### Agreement -/

/-- All places of the registry agree; `rows` is what the tables hold. -/
structure Agreement (world : World Store) (rows : (table : Table) → List table.Row) : Prop where
  stored : ∀ table, world.store.rows table = .ok (rows table)
  /-- What a look at the whole table finds for an organization. -/
  by_owner : ∀ organization ∈ rows .organizations, ∀ kind : ChildKind,
    ((listByOwner kind.table organization.organizationId).runWith .store world).1 =
      .ok ((rows kind.table).filter fun row =>
        kind.table.owner? row = some organization.organizationId)
  /-- The index finds the keys of the same rows, in the same order. -/
  child_ids : ∀ organization ∈ rows .organizations, ∀ kind : ChildKind,
    world.store.childIds organization.organizationId kind =
      .ok (((rows kind.table).filter fun row =>
        kind.table.owner? row = some organization.organizationId).map kind.table.key)
  /-- A listing is of the same rows. -/
  list : ∀ organization ∈ rows .organizations, ∀ kind : ChildKind,
    ((Operation.list kind organization.organizationId).procedure.runWith .store world).1 =
      .ok ((rows kind.table).filter fun row =>
        kind.table.owner? row = some organization.organizationId)
  /-- What has an owner has one that is stored. -/
  owned : ∀ table, ∀ row ∈ rows table, ∀ o, table.owner? row = some o →
    ∃ organization ∈ rows .organizations, organization.organizationId = o
  /-- There is one snapshot for each instance, -/
  snapshots : (rows .snapshots).map (Table.key .snapshots) =
    (rows .instances).map (Table.key .instances)
  /-- of the same organization. -/
  snapshot_owner : ∀ snapshot ∈ rows .snapshots, ∀ app ∈ rows .instances,
    app.instanceId = snapshot.instanceId → app.organizationId = snapshot.organizationId
  /-- There are parameters for instances only, and of the same organization. -/
  parameters : ∀ given ∈ rows .parameters, ∃ app ∈ rows .instances,
    app.instanceId = given.instanceId ∧ app.organizationId = given.organizationId

/-- **All places of a sound world agree.** -/
theorem World.Sound.agreement {world : World Store} (h : world.Sound) :
    Agreement world fun table => (world.store.contents.rows table).values := by
  have hkeyed := h.consistent.keyed
  -- storage of either sort answers as its contents do
  have hanswer : ∀ call, (world.store.perform call).1 = (world.store.contents.perform call).1 :=
    fun call => (h.faithful.perform call).1
  -- a row of an organization is found under its id
  have hthere : ∀ organization ∈ (world.store.contents.rows .organizations).values,
      world.store.contents.ownerAt .organizations organization.organizationId ≠ none := by
    intro organization hmem hnone
    have hfound := Memory.ownerAt_of_row? (hkeyed.mem_values_iff.mp hmem)
    cases hnone.symm.trans hfound
  -- an instance with an owner is a row with this owner
  have hinstance : ∀ c owner, world.store.contents.ownerAt .instances c = some (some owner) →
      ∃ app ∈ (world.store.contents.rows .instances).values,
        app.instanceId = c ∧ app.organizationId = owner := by
    intro c owner howner
    obtain ⟨app, hrow, happ⟩ := Memory.ownerAt_eq_some.mp howner
    exact ⟨app, OrderedMap.mem_values_iff.mpr ⟨c, hrow⟩, hkeyed _ _ _ hrow, Option.some.inj happ⟩
  constructor
  case stored => exact fun table => hanswer (.list table)
  case by_owner =>
    intro organization _ kind
    rw [runWith_contents _ h.faithful, listByOwner, runWith_bind_ok (runWith_perform rfl)]
    rfl
  case child_ids =>
    intro organization hmem kind
    rw [Store.childIds, hanswer]
    exact Memory.childIds_eq h.consistent.toIndexed (hthere organization hmem)
  case list =>
    intro organization hmem kind
    rw [runWith_contents _ h.faithful]
    show ((kind.list _).runWith .memory world.contents).1 = _
    rw [runWith_list h.consistent.toIndexed (hthere organization hmem)]
    rfl
  case owned =>
    intro table row hmem o howner
    have hrow := hkeyed.mem_values_iff.mp hmem
    have hstored := h.consistent.owned table _ o (Memory.ownerAt_eq_some.mpr ⟨row, hrow, howner⟩)
    obtain ⟨owner, hfound⟩ := Option.ne_none_iff_exists'.mp hstored
    obtain ⟨organization, horganization, -⟩ := Memory.ownerAt_eq_some.mp hfound
    exact ⟨organization, OrderedMap.mem_values_iff.mpr ⟨o, horganization⟩,
      hkeyed _ _ _ horganization⟩
  case snapshots =>
    rw [hkeyed.map_key_values, hkeyed.map_key_values]
    refine OrderedMap.keys_eq_of_contains fun c => ?_
    have hsame := congrArg Option.isSome (h.consistent.snapshots c)
    rwa [Memory.ownerAt, Memory.ownerAt, Option.isSome_map, Option.isSome_map] at hsame
  case snapshot_owner =>
    intro snapshot hsnapshot app happ hkey
    have hcopy := Memory.ownerAt_of_row? (hkeyed.mem_values_iff.mp hsnapshot)
    have hrow := Memory.ownerAt_of_row? (hkeyed.mem_values_iff.mp happ)
    -- the two rows have one key, and under a key both tables have one owner
    rw [h.consistent.snapshots] at hcopy
    have hsame := hrow.symm.trans ((congrArg _ hkey).trans hcopy)
    exact Option.some.inj (Option.some.inj hsame)
  case parameters =>
    intro given hgiven
    have howner := Memory.ownerAt_of_row? (hkeyed.mem_values_iff.mp hgiven)
    exact hinstance _ _ (h.consistent.parameters _ _ howner)

/-- **Listings agree with tables** after any operations of which no call is
stopped, from an empty registry and with plain ids. -/
theorem agreement_afterAll {start : World Store} (hfresh : start.store.Fresh)
    (hplain : ∀ n, Plain (start.ids.name n)) (operations : List (Operation × Int64)) :
    ∃ rows, Agreement (start.afterAll operations) rows :=
  ⟨_, ((World.sound_of_fresh hfresh hplain).afterAll operations).agreement⟩

/-- All ids may be the same. -/
theorem agreement_of_one_id :
    (Store.durable .empty).Fresh ∧ Plain "one" ∧
      ∃ rows, Agreement (World.afterAll
        { store := .durable .empty, ids := { name := fun _ => "one", drawn := 0 }, clock := 0 }
        [(.addOrganization { (default : NewOrganization) with name := "acme" }, 1),
          (.addNode { organizationId := "one", ip := "10.0.0.1", labels := .empty }, 2),
          (.addNode { organizationId := "one", ip := "10.0.0.2", labels := .empty }, 3),
          (.remove .node "one" "one", 4)]) rows :=
  have hplain : Plain "one" := by decide
  ⟨Or.inr rfl, hplain, agreement_afterAll (Or.inr rfl) (fun _ => hplain) _⟩

end TenantRegistry
