/-
TenantRegistry/Proofs/Consistency.lean

What holds between operations when no call is stopped.

The registry keeps in several places what belongs together: a row and its
entry in the index, an instance and what came with it.  `Consistent` says that
these places agree.  It looks at rows only as far as who owns them
(`ownerAt`), and so an edit, which keeps owners, does not concern it.

Each change that an operation can make with all of its writes keeps it
(`register`, `remove`, `launch`, `remove_instance`).  Ids have to be plain, and
need not be different from each other.
-/
import TenantRegistry.Proofs.Effect

namespace TenantRegistry

/-! ### Tables of a kind -/

/-- The tables whose rows come and go with a child of a kind. -/
def ChildKind.Holds (kind : ChildKind) (table : Table) : Prop :=
  table = kind.table ∨ (kind = .appInstance ∧ (table = .snapshots ∨ table = .parameters))

theorem ChildKind.holds_table (kind : ChildKind) : kind.Holds kind.table := Or.inl rfl

theorem ChildKind.holds_snapshots : ChildKind.Holds .appInstance .snapshots :=
  Or.inr ⟨rfl, Or.inl rfl⟩

theorem ChildKind.holds_parameters : ChildKind.Holds .appInstance .parameters :=
  Or.inr ⟨rfl, Or.inr rfl⟩

theorem ChildKind.Holds.ne_organizations {kind : ChildKind} {table : Table}
    (h : kind.Holds table) : table ≠ .organizations := by
  rcases h with rfl | ⟨-, rfl | rfl⟩
  · exact kind.table_ne_organizations
  · decide
  · decide

/-- Each table is of one kind. -/
theorem ChildKind.Holds.eq {kind kind' : ChildKind} {table : Table} (h : kind.Holds table)
    (h' : kind'.Holds table) : kind = kind' := by
  rcases h with rfl | ⟨rfl, rfl | rfl⟩
  · rcases h' with heq | ⟨-, heq | heq⟩
    · exact ChildKind.table_inj heq
    · exact absurd heq kind.table_ne_snapshots
    · exact absurd heq kind.table_ne_parameters
  · rcases h' with heq | ⟨rfl, -⟩
    · exact absurd heq.symm kind'.table_ne_snapshots
    · rfl
  · rcases h' with heq | ⟨rfl, -⟩
    · exact absurd heq.symm kind'.table_ne_parameters
    · rfl

/-! ### Owners -/

namespace Memory

variable {memory : Memory}

/-- The owner of the row under a key, if there is a row. -/
def ownerAt (memory : Memory) (table : Table) (key : String) : Option (Option String) :=
  (memory.row? table key).map table.owner?

theorem ownerAt_of_row? {table : Table} {key : String} {row : table.Row}
    (h : memory.row? table key = some row) :
    memory.ownerAt table key = some (table.owner? row) := by
  rw [ownerAt, h, Option.map_some]

theorem ownerAt_eq_none {table : Table} {key : String} :
    memory.ownerAt table key = none ↔ memory.row? table key = none :=
  Option.map_eq_none_iff

theorem ownerAt_eq_some {table : Table} {key : String} {owner : Option String} :
    memory.ownerAt table key = some owner ↔
      ∃ row, memory.row? table key = some row ∧ table.owner? row = owner :=
  Option.map_eq_some_iff

theorem ownerAt_put (memory : Memory) (table other : Table) (row : table.Row) (key : String) :
    (memory.put table row).ownerAt other key =
      if other = table ∧ key = table.key row then some (table.owner? row)
      else memory.ownerAt other key := by
  by_cases hother : other = table
  · subst hother
    rw [ownerAt, row?_put_self]
    by_cases hkey : key = other.key row
    · rw [if_pos hkey, if_pos ⟨rfl, hkey⟩, Option.map_some]
    · rw [if_neg hkey, if_neg fun h => hkey h.2, ownerAt]
  · rw [ownerAt, row?_put_of_ne _ _ hother, if_neg fun h => hother h.1, ownerAt]

theorem ownerAt_drop (memory : Memory) (table other : Table) (dropped key : String) :
    (memory.drop table dropped).ownerAt other key =
      if other = table ∧ key = dropped then none else memory.ownerAt other key := by
  by_cases hother : other = table
  · subst hother
    rw [ownerAt, row?_drop_self]
    by_cases hkey : key = dropped
    · rw [if_pos hkey, if_pos ⟨rfl, hkey⟩, Option.map_none]
    · rw [if_neg hkey, if_neg fun h => hkey h.2, ownerAt]
  · rw [ownerAt, row?_drop_of_ne _ _ hother, if_neg fun h => hother h.1, ownerAt]

@[simp] theorem ownerAt_enter (memory : Memory) (o : String) (kind : ChildKind) (c : String)
    (table : Table) (key : String) :
    (memory.enter o kind c).ownerAt table key = memory.ownerAt table key := rfl

@[simp] theorem ownerAt_leave (memory : Memory) (o : String) (kind : ChildKind) (c : String)
    (table : Table) (key : String) :
    (memory.leave o kind c).ownerAt table key = memory.ownerAt table key := rfl

@[simp] theorem ownerAt_empty (table : Table) (key : String) : empty.ownerAt table key = none := by
  rw [ownerAt, row?_empty]
  rfl

theorem ownerAt_put_of_ne {table other : Table} (h : other ≠ table) (row : table.Row)
    (key : String) : (memory.put table row).ownerAt other key = memory.ownerAt other key := by
  rw [ownerAt_put, if_neg fun hboth => h hboth.1]

theorem ownerAt_drop_of_ne {table other : Table} (h : other ≠ table) (dropped key : String) :
    (memory.drop table dropped).ownerAt other key = memory.ownerAt other key := by
  rw [ownerAt_drop, if_neg fun hboth => h hboth.1]

/-- An edit that keeps the owner of a row keeps all owners. -/
theorem ownerAt_put_of_owner {table : Table} {before after : table.Row}
    (hbefore : memory.row? table (table.key after) = some before)
    (howner : table.owner? after = table.owner? before) (other : Table) (key : String) :
    (memory.put table after).ownerAt other key = memory.ownerAt other key := by
  rw [ownerAt_put]
  split
  · next h =>
    obtain ⟨rfl, rfl⟩ := h
    rw [ownerAt_of_row? hbefore, howner]
  · rfl

/-- A row that is put under its key, with the owner that was there if any was, keeps all
owners. -/
theorem ownerAt_put_of_some {table other : Table} {row : table.Row}
    (hsame : other = table → ∀ owner, memory.ownerAt table (table.key row) = some owner →
      table.owner? row = owner)
    {key : String} {owner : Option String} (h : memory.ownerAt other key = some owner) :
    (memory.put table row).ownerAt other key = some owner := by
  rw [ownerAt_put]
  split
  · next heq =>
    obtain ⟨rfl, rfl⟩ := heq
    rw [hsame rfl owner h]
  · exact h

/-! ### Rows under their own keys -/

theorem keyed_empty : empty.Keyed := by
  intro table key row h
  rw [row?_empty] at h
  cases h

theorem Keyed.put (h : memory.Keyed) (table : Table) (row : table.Row) :
    (memory.put table row).Keyed := by
  intro other key found hfound
  by_cases hother : other = table
  · subst hother
    rw [row?_put_self] at hfound
    split at hfound
    · next hkey =>
      cases hfound
      exact hkey.symm
    · exact h _ _ _ hfound
  · rw [row?_put_of_ne _ _ hother] at hfound
    exact h _ _ _ hfound

theorem Keyed.drop (h : memory.Keyed) (table : Table) (dropped : String) :
    (memory.drop table dropped).Keyed := by
  intro other key found hfound
  exact h _ _ _ (row?_of_drop hfound)

theorem Keyed.enter (h : memory.Keyed) (o : String) (kind : ChildKind) (c : String) :
    (memory.enter o kind c).Keyed := h

theorem Keyed.leave (h : memory.Keyed) (o : String) (kind : ChildKind) (c : String) :
    (memory.leave o kind c).Keyed := h

/-- Every call leaves rows under their own keys. -/
theorem Keyed.perform (h : memory.Keyed) (call : Call) : (memory.perform call).2.Keyed :=
  perform_induction h (fun _ => h.put _ _) (fun _ => h.drop _ _) (fun _ => h.enter _ _ _)
    fun _ => h.leave _ _ _

theorem Keyed.remains (h : memory.Keyed) (app : Instance) (snapshot : Snapshot)
    (row entry copy : Bool) : (memory.remains app snapshot row entry copy).Keyed :=
  -- whichever of the writes remain, each puts a row under its own key
  remains_induction h (fun h => h.put .instances app) (fun _ h => h.enter _ _ _)
    (fun _ h => h.put .snapshots snapshot) row entry copy

end Memory

/-- Every operation leaves rows under their own keys, whatever is stopped. -/
theorem Effect.keyed {world world' : World Memory} {trace : List Attempt} {operation : Operation}
    {succeeded : Bool} (heffect : Effect world world' trace operation succeeded)
    (h : world.store.Keyed) : world'.store.Keyed := by
  cases heffect with
  | unchanged store => exact store ▸ h
  | founded organization _ _ store => exact store ▸ h.put .organizations organization
  | edited before after _ _ _ store => exact store ▸ h.put _ after
  | registered row _ _ _ store => exact store ▸ (h.put _ row).enter _ _ _
  | stored row _ _ _ store => exact store ▸ h.put _ row
  | removed row _ _ _ _ store => exact store ▸ (h.drop _ _).leave _ _ _
  | @removedInstance o c app copy given _ _ _ store =>
    rw [store]
    have hgone := (h.drop .instances c).leave o .appInstance c
    exact Memory.removed_induction hgone (fun h => h.drop _ _) (fun _ h => h.drop _ _) copy given
  | dropped row _ _ _ _ _ store => exact store ▸ h.drop _ _
  | unlisted _ _ _ store => exact store ▸ h.leave _ _ _
  | launched app snapshot parameters _ _ _ _ _ store =>
    rw [store]
    cases parameters with
    | none => exact h.remains app snapshot true true true
    | some given => exact (h.remains app snapshot true true true).put .parameters given
  | remaining app snapshot _ _ row entry copy _ _ _ _ _ store =>
    exact store ▸ h.remains app snapshot row entry copy

/-! ### The index and the rows -/

/-- The index and the rows agree. -/
structure Indexed (memory : Memory) : Prop where
  keyed : memory.Keyed
  plain : ∀ o, memory.ownerAt .organizations o ≠ none → Plain o
  /-- An entry of the index is for a row with its organization as owner. -/
  entries : ∀ key, memory.children.contains key = true → ∃ o kind c,
    key = IndexKey.entry o kind c ∧ Plain c ∧ memory.ownerAt kind.table c = some (some o)
  /-- A row has an entry under its owner. -/
  listed : ∀ kind c o, memory.ownerAt kind.table c = some (some o) →
    memory.hasChild o kind c = true
  /-- The owner of a row is stored, in whatever table the row is. -/
  owned : ∀ table c o, memory.ownerAt table c = some (some o) →
    memory.ownerAt .organizations o ≠ none

namespace Indexed

variable {memory : Memory} {o c : String} {kind : ChildKind}

theorem empty : Indexed .empty where
  keyed := Memory.keyed_empty
  plain o h := absurd (Memory.ownerAt_empty _ _) h
  entries key h := by cases h
  listed kind c o h := by
    rw [Memory.ownerAt_empty] at h
    cases h
  owned table c o h := by
    rw [Memory.ownerAt_empty] at h
    cases h

/-- **What is listed is there, and belongs to whom it is listed for**, however
the parts of its key were chosen. -/
theorem of_hasChild (h : Indexed memory) (hlisted : memory.hasChild o kind c = true) :
    memory.ownerAt kind.table c = some (some o) ∧ Plain o ∧ Plain c := by
  -- the entry has plain parts, and so they can be told from the key
  obtain ⟨o', kind', c', heq, hc', howner⟩ := h.entries _ hlisted
  have ho' : Plain o' := h.plain o' (h.owned _ c' o' howner)
  obtain ⟨rfl, rfl, rfl⟩ := IndexKey.eq_of_entry_eq ho' hc' heq.symm
  exact ⟨howner, ho', hc'⟩

/-- A key under which nothing is stored is not listed. -/
theorem hasChild_eq_false (h : Indexed memory) (habsent : memory.row? kind.table c = none) :
    memory.hasChild o kind c = false := by
  refine Bool.eq_false_iff.mpr fun hlisted => ?_
  have howner := (h.of_hasChild hlisted).1
  rw [Memory.ownerAt_eq_none.mpr habsent] at howner
  cases howner

/-- A change that concerns neither the index nor the owners in tables that it is about keeps
them in agreement. -/
theorem of_same (h : Indexed memory) {after : Memory} (hkeyed : after.Keyed)
    (horganizations : ∀ key, after.ownerAt .organizations key = memory.ownerAt .organizations key)
    (hkinds : ∀ (kind : ChildKind) key,
      after.ownerAt kind.table key = memory.ownerAt kind.table key)
    (howned : ∀ table c o, after.ownerAt table c = some (some o) →
      memory.ownerAt .organizations o ≠ none)
    (hchildren : after.children = memory.children) : Indexed after where
  keyed := hkeyed
  plain o := by
    rw [horganizations]
    exact h.plain o
  entries key := by
    rw [hchildren]
    intro hkey
    obtain ⟨o, kind, c, heq, hc, howner⟩ := h.entries key hkey
    exact ⟨o, kind, c, heq, hc, by rw [hkinds]; exact howner⟩
  listed kind c o := by
    rw [hkinds, Memory.hasChild, hchildren]
    exact h.listed kind c o
  owned table c o := by
    rw [horganizations]
    exact howned table c o

/-- One more organization. -/
theorem found (h : Indexed memory) {organization : Organization}
    (hplain : Plain organization.organizationId) :
    Indexed (memory.put .organizations organization) := by
  have hrows : ∀ (kind : ChildKind) key, (memory.put .organizations organization).ownerAt kind.table
      key = memory.ownerAt kind.table key :=
    fun kind key => Memory.ownerAt_put_of_ne kind.table_ne_organizations organization key
  refine
    { keyed := h.keyed.put .organizations organization
      plain := ?plain
      entries := ?entries
      listed := ?listed
      owned := ?owned }
  case plain =>
    intro o hthere
    rw [Memory.ownerAt_put] at hthere
    split at hthere
    · next heq => exact heq.2 ▸ hplain
    · exact h.plain o hthere
  case entries =>
    intro key hkey
    obtain ⟨o, kind, c, heq, hc, howner⟩ := h.entries key hkey
    exact ⟨o, kind, c, heq, hc, by rw [hrows]; exact howner⟩
  case listed =>
    intro kind c o howner
    rw [hrows] at howner
    exact h.listed kind c o howner
  case owned =>
    intro table c o howner
    rw [Memory.ownerAt_put] at howner
    split at howner
    · next heq =>
      obtain ⟨rfl, -⟩ := heq
      cases howner
    · rw [Memory.ownerAt_put]
      split
      · exact nofun
      · exact h.owned table c o howner

/-- One more row, with its entry. -/
theorem register (h : Indexed memory) {row : kind.Row} (howner : kind.table.owner? row = some o)
    (ho : memory.ownerAt .organizations o ≠ none) (hplain : Plain (kind.table.key row))
    (habsent : memory.row? kind.table (kind.table.key row) = none) :
    Indexed ((memory.put kind.table row).enter o kind (kind.table.key row)) := by
  have horganizations : ∀ key, (memory.put kind.table row).ownerAt .organizations key =
      memory.ownerAt .organizations key :=
    fun key => Memory.ownerAt_put_of_ne kind.table_ne_organizations.symm row key
  have hfree := Memory.ownerAt_eq_none.mpr habsent
  refine
    { keyed := (h.keyed.put kind.table row).enter _ _ _
      plain := ?plain
      entries := ?entries
      listed := ?listed
      owned := ?owned }
  case plain =>
    intro o' hthere
    rw [Memory.ownerAt_enter, horganizations] at hthere
    exact h.plain o' hthere
  case entries =>
    intro key hkey
    rw [Memory.contains_children_enter, Bool.or_eq_true, decide_eq_true_eq] at hkey
    rcases hkey with rfl | hkey
    · refine ⟨o, kind, _, rfl, hplain, ?_⟩
      rw [Memory.ownerAt_enter, Memory.ownerAt_put, if_pos ⟨rfl, rfl⟩, howner]
    · obtain ⟨o', kind', c, heq, hc, hrow⟩ := h.entries key hkey
      refine ⟨o', kind', c, heq, hc, ?_⟩
      rw [Memory.ownerAt_enter, Memory.ownerAt_put, if_neg, hrow]
      -- an entry for the new key would have a row
      rintro ⟨htable, rfl⟩
      rw [htable, hfree] at hrow
      cases hrow
  case listed =>
    intro kind' c o' hrow
    rw [Memory.hasChild, Memory.contains_children_enter, Bool.or_eq_true, decide_eq_true_eq]
    rw [Memory.ownerAt_enter, Memory.ownerAt_put] at hrow
    split at hrow
    · next heq =>
      obtain ⟨htable, rfl⟩ := heq
      obtain rfl := ChildKind.table_inj htable
      rw [howner] at hrow
      cases hrow
      exact Or.inl rfl
    · exact Or.inr (h.listed kind' c o' hrow)
  case owned =>
    intro table c o' hrow
    rw [Memory.ownerAt_enter, horganizations]
    rw [Memory.ownerAt_enter, Memory.ownerAt_put] at hrow
    split at hrow
    · rw [howner] at hrow
      cases hrow
      exact ho
    · exact h.owned table c o' hrow

/-- One row less, and one entry less. -/
theorem remove (h : Indexed memory) (hlisted : memory.hasChild o kind c = true) :
    Indexed ((memory.drop kind.table c).leave o kind c) := by
  obtain ⟨howner, ho, hc⟩ := h.of_hasChild hlisted
  have horganizations : ∀ key, (memory.drop kind.table c).ownerAt .organizations key =
      memory.ownerAt .organizations key :=
    fun key => Memory.ownerAt_drop_of_ne kind.table_ne_organizations.symm c key
  refine
    { keyed := (h.keyed.drop kind.table c).leave _ _ _
      plain := ?plain
      entries := ?entries
      listed := ?listed
      owned := ?owned }
  case plain =>
    intro o' hthere
    rw [Memory.ownerAt_leave, horganizations] at hthere
    exact h.plain o' hthere
  case entries =>
    intro key hkey
    rw [Memory.contains_children_leave, Bool.and_eq_true, decide_eq_true_eq] at hkey
    obtain ⟨o', kind', c', rfl, hc', hrow⟩ := h.entries key hkey.2
    refine ⟨o', kind', c', rfl, hc', ?_⟩
    rw [Memory.ownerAt_leave, Memory.ownerAt_drop, if_neg, hrow]
    rintro ⟨htable, rfl⟩
    obtain rfl := ChildKind.table_inj htable
    rw [howner] at hrow
    cases hrow
    exact hkey.1 rfl
  case listed =>
    intro kind' c' o' hrow
    rw [Memory.ownerAt_leave, Memory.ownerAt_drop] at hrow
    split at hrow
    · cases hrow
    next hother =>
    rw [Memory.hasChild, Memory.contains_children_leave, Bool.and_eq_true, decide_eq_true_eq]
    refine ⟨fun heq => ?_, h.listed kind' c' o' hrow⟩
    -- entries with plain parts are equal only for the same child
    have ho' := h.plain o' (h.owned _ c' o' hrow)
    obtain ⟨rfl, rfl, rfl⟩ := IndexKey.entry_inj ho' ho heq
    exact hother ⟨rfl, rfl⟩
  case owned =>
    intro table c' o' hrow
    rw [Memory.ownerAt_leave, Memory.ownerAt_drop] at hrow
    split at hrow
    · cases hrow
    · rw [Memory.ownerAt_leave, horganizations]
      exact h.owned table c' o' hrow

/-- A row put into a table that the index is not about. -/
theorem put_aside (h : Indexed memory) {table : Table} {row : table.Row}
    (hkinds : ∀ kind, ChildKind.table kind ≠ table) (horganizations : .organizations ≠ table)
    (howner : ∀ o, table.owner? row = some o → memory.ownerAt .organizations o ≠ none) :
    Indexed (memory.put table row) := by
  refine h.of_same (h.keyed.put table row)
    (fun key => Memory.ownerAt_put_of_ne horganizations row key)
    (fun kind key => Memory.ownerAt_put_of_ne (hkinds kind) row key) (fun other c o hrow => ?_) rfl
  rw [Memory.ownerAt_put] at hrow
  split at hrow
  · exact howner o (Option.some.inj hrow)
  · exact h.owned other c o hrow

/-- A row dropped from a table that the index is not about. -/
theorem drop_aside (h : Indexed memory) {table : Table}
    (hkinds : ∀ kind, ChildKind.table kind ≠ table) (horganizations : .organizations ≠ table)
    (key : String) : Indexed (memory.drop table key) := by
  refine h.of_same (h.keyed.drop table key)
    (fun other => Memory.ownerAt_drop_of_ne horganizations key other)
    (fun kind other => Memory.ownerAt_drop_of_ne (hkinds kind) key other)
    (fun other c o hrow => ?_) rfl
  rw [Memory.ownerAt_drop] at hrow
  split at hrow
  · cases hrow
  · exact h.owned other c o hrow

end Indexed

/-! ### All places -/

/-- All places of the registry agree. -/
structure Consistent (memory : Memory) : Prop extends Indexed memory where
  /-- There is one snapshot for each instance, of the same owner. -/
  snapshots : ∀ c, memory.ownerAt .snapshots c = memory.ownerAt .instances c
  /-- There are parameters for instances only, and of the same owner. -/
  parameters : ∀ c owner, memory.ownerAt .parameters c = some owner →
    memory.ownerAt .instances c = some owner

theorem Consistent.empty : Consistent .empty where
  toIndexed := .empty
  snapshots c := by rw [Memory.ownerAt_empty, Memory.ownerAt_empty]
  parameters c owner h := by
    rw [Memory.ownerAt_empty] at h
    cases h

/-- The rows of instances, and what comes with them, are as they were. -/
theorem Consistent.of_indexed {memory after : Memory} (h : Consistent memory)
    (hindexed : Indexed after)
    (hsame : ∀ table, table = .instances ∨ table = .snapshots ∨ table = .parameters →
      ∀ key, after.ownerAt table key = memory.ownerAt table key) : Consistent after where
  toIndexed := hindexed
  snapshots c := by
    rw [hsame .snapshots (by simp), hsame .instances (by simp)]
    exact h.snapshots c
  parameters c owner := by
    rw [hsame .parameters (by simp), hsame .instances (by simp)]
    exact h.parameters c owner

/-! ### Rows that come and go -/

theorem Operation.registers?_ne_appInstance {operation : Operation} {kind : ChildKind}
    {organizationId : String} (h : operation.registers? = some (kind, organizationId)) :
    kind ≠ .appInstance := by
  rintro rfl
  cases operation <;> cases h

theorem NewRow.plain_key {world world' : World Memory} {kind : ChildKind} {organizationId : String}
    {row : kind.Row} (hnew : NewRow world world' kind organizationId row)
    (hids : ∀ n, Plain (world'.ids.name n)) : Plain (kind.table.key row) := by
  have hkey := hnew.key
  split at hkey
  · exact hkey
  · exact hkey.plain hids

namespace Consistent

variable {memory : Memory} {kind : ChildKind} {o : String}

/-- Where an instance and what comes with it are, there are no rows of another kind. -/
theorem table_ne (hkind : kind ≠ .appInstance) :
    ∀ table, table = .instances ∨ table = .snapshots ∨ table = .parameters →
      table ≠ kind.table := by
  rintro table (rfl | rfl | rfl) heq
  · have hsame : kind.table = ChildKind.table .appInstance := heq.symm
    exact hkind (ChildKind.table_inj hsame)
  · exact kind.table_ne_snapshots heq.symm
  · exact kind.table_ne_parameters heq.symm

/-- One more row that is no instance, with its entry. -/
theorem register (h : Consistent memory) {row : kind.Row}
    (hkind : kind ≠ .appInstance) (howner : kind.table.owner? row = some o)
    (ho : memory.ownerAt .organizations o ≠ none) (hplain : Plain (kind.table.key row))
    (habsent : memory.row? kind.table (kind.table.key row) = none) :
    Consistent ((memory.put kind.table row).enter o kind (kind.table.key row)) :=
  h.of_indexed (h.toIndexed.register howner ho hplain habsent) fun table htable key =>
    Memory.ownerAt_put_of_ne (table_ne hkind table htable) row key

/-- One row less that is no instance, and one entry less. -/
theorem remove (h : Consistent memory) {c : String} (hkind : kind ≠ .appInstance)
    (hlisted : memory.hasChild o kind c = true) :
    Consistent ((memory.drop kind.table c).leave o kind c) :=
  h.of_indexed (h.toIndexed.remove hlisted) fun table htable key =>
    Memory.ownerAt_drop_of_ne (table_ne hkind table htable) c key

/-- One more instance, with all that comes with it. -/
theorem launch (h : Consistent memory) {app : Instance} {snapshot : Snapshot}
    {parameters : Option InstanceParameters}
    (howner : app.organizationId = o) (ho : memory.ownerAt .organizations o ≠ none)
    (hplain : Plain app.instanceId) (habsent : memory.row? .instances app.instanceId = none)
    (hsnapshot : snapshot.instanceId = app.instanceId ∧ snapshot.organizationId = o)
    (hparameters : ∀ given ∈ parameters,
      given.instanceId = app.instanceId ∧ given.organizationId = o) :
    Consistent ((memory.remains app snapshot true true true).putGiven .parameters parameters) := by
  subst howner
  obtain ⟨hkey, hsame⟩ := hsnapshot
  have happ : (ChildKind.table .appInstance).owner? app = some app.organizationId := rfl
  -- the instance is registered like any row; its snapshot stands aside of the index
  have hregistered : Indexed ((memory.put .instances app).enter app.organizationId .appInstance
      app.instanceId) := h.toIndexed.register happ ho hplain habsent
  have hindexed : Indexed (memory.remains app snapshot true true true) :=
    hregistered.put_aside ChildKind.table_ne_snapshots (by decide) fun owner howner => by
        cases howner
        rwa [Memory.ownerAt_enter, Memory.ownerAt_put_of_ne (by decide), hsame]
  -- instances and snapshots have one more owner, under the same key
  have hinstances : ∀ c, (memory.remains app snapshot true true true).ownerAt .instances c =
      if c = app.instanceId then some (some app.organizationId)
      else memory.ownerAt .instances c := by
    intro c
    simp [Memory.remains, Memory.ownerAt_put, Table.key, Table.owner?]
  have hsnapshots : ∀ c, (memory.remains app snapshot true true true).ownerAt .snapshots c =
      if c = app.instanceId then some (some app.organizationId)
      else memory.ownerAt .snapshots c := by
    intro c
    simp [Memory.remains, Memory.ownerAt_put, Table.key, Table.owner?, hkey, hsame]
  have hconsistent : Consistent (memory.remains app snapshot true true true) := by
    refine ⟨hindexed, fun c => ?_, fun c owner hc => ?_⟩
    · rw [hinstances, hsnapshots, h.snapshots]
    -- parameters of before are for instances of before, and this one is new
    · have hold := h.parameters c owner hc
      rw [hinstances, if_neg, hold]
      rintro rfl
      rw [Memory.ownerAt_eq_none.mpr habsent] at hold
      cases hold
  cases parameters with
  | none => exact hconsistent
  | some given =>
    obtain ⟨hgiven, howner⟩ := hparameters given rfl
    have hthere : ∀ owner, Table.owner? .parameters given = some owner →
        (memory.remains app snapshot true true true).ownerAt .organizations owner ≠ none := by
      intro owner hgiven
      cases hgiven
      rw [howner]
      simpa [Memory.remains, Memory.ownerAt_put] using ho
    refine ⟨hindexed.put_aside ChildKind.table_ne_parameters (by decide) hthere, fun c => ?_,
      fun c owner hc => ?_⟩
    · simpa [Memory.putGiven, Memory.ownerAt_put] using hconsistent.snapshots c
    · rw [Memory.putGiven, Option.elim, Memory.ownerAt_put] at hc
      rw [Memory.putGiven, Option.elim, Memory.ownerAt_put_of_ne (by decide)]
      split at hc
      · next heq =>
        obtain rfl : c = given.instanceId := heq.2
        cases hc
        rw [hinstances, if_pos hgiven]
        exact congrArg (fun owner => some (some owner)) howner.symm
      · exact hconsistent.parameters c owner hc

/-- One instance less, and less of what came with it. -/
theorem remove_instance (h : Consistent memory) {c : String}
    (hlisted : memory.hasChild o .appInstance c = true) :
    Consistent ((((memory.drop .instances c).leave o .appInstance c).drop .snapshots c).drop
      .parameters c) := by
  -- the index is about the instance only
  have hindexed := ((h.toIndexed.remove hlisted).drop_aside ChildKind.table_ne_snapshots (by decide)
    c).drop_aside ChildKind.table_ne_parameters (by decide) c
  refine ⟨hindexed, fun key => ?_, fun key owner hkey => ?_⟩
  · simp [Memory.ownerAt_drop, h.snapshots]
  · simp only [Memory.ownerAt_drop, Memory.ownerAt_leave, reduceCtorEq, false_and, true_and,
      if_false] at hkey ⊢
    split at hkey
    · cases hkey
    · next hother =>
      rw [if_neg hother]
      exact h.parameters key owner hkey

end Consistent

end TenantRegistry
