/-
TenantRegistry/Proofs/ForeignRemovals.lean

When a removal deletes what belongs to another organization.

To remove is to look into the index and then to delete; who owns the row is
not looked at.  So a removal for one organization deletes a row of another as
soon as the index of the first lists a key under which the other has a row.
Any calls of any operation before may have been stopped.

For ids this cannot happen.  An id is drawn for one organization, and whatever
is ever stored or listed under it is of that organization (`Guarded`).  A user
is known by an email address, which any organization may give.  An address
stays listed without its row when the last call of a removal is stopped; then
another organization may add a user with that address, and a removal for the
first deletes it.  This is the only way (`deletes_foreign_iff`).
-/
import TenantRegistry.Proofs.Outcomes
import TenantRegistry.Proofs.Runs

namespace TenantRegistry

open Procedure

/-! ### The invariant -/

/-- What protects rows from removals for other organizations.  `stuck` are the addresses that a
removal left in the index. -/
structure Guarded (ids : IdSource) (stuck : String → Prop) (memory : Memory) : Prop where
  keyed : memory.Keyed
  /-- Entries have plain parts, and ids in them were drawn. -/
  entries : ∀ key, memory.children.contains key = true → ∃ o kind c,
    key = IndexKey.entry o kind c ∧ Plain o ∧ Plain c ∧ (kind ≠ .user → ids.Drawn c)
  /-- Rows are under ids that were drawn. -/
  rows : ∀ kind table c, kind ≠ .user → ChildKind.Holds kind table →
    memory.ownerAt table c ≠ none → ids.Drawn c
  /-- What is listed under an id and what is stored under it are of one organization. -/
  same : ∀ o kind c table owner, kind ≠ .user → ChildKind.Holds kind table →
    memory.hasChild o kind c = true → memory.ownerAt table c = some owner → owner = some o
  /-- A listed address is of a user of the organization, or a removal left it. -/
  users : ∀ o c, memory.hasChild o .user c = true →
    memory.ownerAt .users c = some (some o) ∨ stuck c

namespace Guarded

variable {ids ids' : IdSource} {stuck stuck' : String → Prop} {memory after : Memory}
  {kind : ChildKind} {o c : String}

theorem empty (ids : IdSource) (stuck : String → Prop) : Guarded ids stuck .empty where
  keyed := Memory.keyed_empty
  entries key h := by cases h
  rows kind table c _ _ h := absurd (Memory.ownerAt_empty table c) h
  same o kind c table owner _ _ h := by cases h
  users o c h := by cases h

theorem of_hasChild (h : Guarded ids stuck memory) (hlisted : memory.hasChild o kind c = true) :
    Plain o ∧ Plain c ∧ (kind ≠ .user → ids.Drawn c) := by
  obtain ⟨o', kind', c', heq, ho', hc', hdrawn⟩ := h.entries _ hlisted
  obtain ⟨rfl, rfl, rfl⟩ := IndexKey.eq_of_entry_eq ho' hc' heq.symm
  exact ⟨ho', hc', hdrawn⟩

/-- More ids were drawn, and more addresses are stuck. -/
theorem later (h : Guarded ids stuck memory) (hext : ids.Extends ids')
    (hstuck : ∀ c, stuck c → stuck' c) : Guarded ids' stuck' memory where
  keyed := h.keyed
  entries key hkey := by
    obtain ⟨o, kind, c, heq, ho, hc, hdrawn⟩ := h.entries key hkey
    exact ⟨o, kind, c, heq, ho, hc, fun hkind => (hdrawn hkind).later hext⟩
  rows kind table c hkind htable hrow := (h.rows kind table c hkind htable hrow).later hext
  same := h.same
  users o c hlisted := (h.users o c hlisted).imp_right (hstuck c)

/-- Nothing more is stored or listed. -/
theorem fewer (h : Guarded ids stuck memory) (hkeyed : after.Keyed)
    (hrows : ∀ kind table, ChildKind.Holds kind table → ∀ key owner,
      after.ownerAt table key = some owner → memory.ownerAt table key = some owner)
    (hchildren : ∀ key, after.children.contains key = true →
      memory.children.contains key = true)
    (husers : ∀ o c, after.hasChild o .user c = true →
      after.ownerAt .users c = some (some o) ∨ stuck c) : Guarded ids stuck after where
  keyed := hkeyed
  entries key hkey := h.entries key (hchildren key hkey)
  rows kind table c hkind htable hrow := by
    obtain ⟨owner, howner⟩ := Option.ne_none_iff_exists'.mp hrow
    refine h.rows kind table c hkind htable fun hnone => ?_
    cases hnone.symm.trans (hrows kind table htable c owner howner)
  same o kind c table owner hkind htable hlisted howner :=
    h.same o kind c table owner hkind htable (hchildren _ hlisted)
      (hrows kind table htable c owner howner)
  users := husers

/-- Owners and the index are the same. -/
theorem of_same (h : Guarded ids stuck memory) (hkeyed : after.Keyed)
    (hrows : ∀ kind table, ChildKind.Holds kind table → ∀ key,
      after.ownerAt table key = memory.ownerAt table key)
    (hchildren : after.children = memory.children) : Guarded ids stuck after := by
  refine h.fewer hkeyed (fun kind table htable key owner howner => ?_) (fun key hkey => ?_)
    fun o c hlisted => ?_
  · rwa [hrows kind table htable] at howner
  · rwa [hchildren] at hkey
  · rw [hrows .user .users (Or.inl rfl)]
    rw [Memory.hasChild, hchildren] at hlisted
    exact h.users o c hlisted

/-- Under an id that is new nothing is listed. -/
theorem unlisted_of_issued (h : Guarded ids stuck memory) (hissued : ids.Issued ids' c)
    (hext : ids.Extends ids') (hinjective : Function.Injective ids'.name) (hkind : kind ≠ .user) :
    memory.hasChild o kind c = false := by
  refine Bool.eq_false_iff.mpr fun hlisted => ?_
  exact hissued.not_drawn hext hinjective ((h.of_hasChild hlisted).2.2 hkind)

/-- Under an id that is new nothing is stored. -/
theorem absent_of_issued (h : Guarded ids stuck memory) (hissued : ids.Issued ids' c)
    (hext : ids.Extends ids') (hinjective : Function.Injective ids'.name) {table : Table}
    (hkind : kind ≠ .user) (htable : kind.Holds table) : memory.row? table c = none := by
  by_contra hthere
  exact hissued.not_drawn hext hinjective
    (h.rows kind table c hkind htable (mt Memory.ownerAt_eq_none.mp hthere))

end Guarded

/-! ### An id for an organization -/

/-- What is stored or listed under an id is of one organization, and so may more be. -/
structure Reserved (ids : IdSource) (stuck : String → Prop) (memory : Memory) (o c : String) : Prop
    extends Guarded ids stuck memory where
  owner : Plain o
  id : Plain c
  drawn : ids.Drawn c
  listed : ∀ o' kind, kind ≠ .user → memory.hasChild o' kind c = true → o' = o
  stored : ∀ kind table owner, kind ≠ .user → ChildKind.Holds kind table →
    memory.ownerAt table c = some owner → owner = some o

variable {ids ids' : IdSource} {stuck stuck' : String → Prop} {memory : Memory}
  {kind : ChildKind} {o c : String}

/-- Under a new id there is nothing. -/
theorem Guarded.reserve (h : Guarded ids stuck memory) (hissued : ids.Issued ids' c)
    (hext : ids.Extends ids') (hinjective : Function.Injective ids'.name) (ho : Plain o)
    (hc : Plain c) : Reserved ids' stuck memory o c where
  toGuarded := h.later hext fun _ => id
  owner := ho
  id := hc
  drawn := hissued.drawn
  listed o' kind hkind hlisted := by
    cases hlisted.symm.trans (h.unlisted_of_issued hissued hext hinjective hkind)
  stored kind table owner hkind htable howner := by
    have habsent := h.absent_of_issued hissued hext hinjective hkind htable
    cases (Memory.ownerAt_eq_none.mpr habsent).symm.trans howner

namespace Reserved

theorem put (h : Reserved ids stuck memory o c) {table : Table} {row : table.Row}
    (hkind : kind ≠ .user) (htable : kind.Holds table) (hkey : table.key row = c)
    (howner : table.owner? row = some o) : Reserved ids stuck (memory.put table row) o c := by
  -- users have keys of their own, which are no ids
  have husers : Table.users ≠ table := by
    rintro rfl
    exact hkind (htable.eq (Or.inl rfl))
  subst hkey
  refine
    { keyed := h.keyed.put table row
      entries := h.entries
      rows := ?rows
      same := ?same
      users := ?users
      owner := h.owner
      id := h.id
      drawn := h.drawn
      listed := h.listed
      stored := ?stored }
  case rows =>
    intro kind' other c' hkind' hother hrow
    rw [Memory.ownerAt_put] at hrow
    split at hrow
    · next heq => exact heq.2 ▸ h.drawn
    · exact h.rows kind' other c' hkind' hother hrow
  case same =>
    intro o' kind' c' other owner hkind' hother hlisted hrow
    rw [Memory.ownerAt_put] at hrow
    split at hrow
    · next heq =>
      obtain ⟨rfl, rfl⟩ := heq
      obtain rfl := h.listed o' kind' hkind' hlisted
      rw [howner] at hrow
      exact (Option.some.inj hrow).symm
    · exact h.same o' kind' c' other owner hkind' hother hlisted hrow
  case users =>
    intro o' c' hlisted
    rw [Memory.ownerAt_put_of_ne husers]
    exact h.users o' c' hlisted
  case stored =>
    intro kind' other owner hkind' hother hrow
    rw [Memory.ownerAt_put] at hrow
    split at hrow
    · rw [howner] at hrow
      exact (Option.some.inj hrow).symm
    · exact h.stored kind' other owner hkind' hother hrow

theorem enter (h : Reserved ids stuck memory o c) (hkind : kind ≠ .user) :
    Reserved ids stuck (memory.enter o kind c) o c := by
  refine
    { keyed := h.keyed.enter o kind c
      entries := ?entries
      rows := h.rows
      same := ?same
      users := ?users
      owner := h.owner
      id := h.id
      drawn := h.drawn
      listed := ?listed
      stored := h.stored }
  case entries =>
    intro key hkey
    rw [Memory.contains_children_enter, Bool.or_eq_true, decide_eq_true_eq] at hkey
    rcases hkey with rfl | hkey
    · exact ⟨o, kind, c, rfl, h.owner, h.id, fun _ => h.drawn⟩
    · exact h.entries key hkey
  case same =>
    intro o' kind' c' other owner hkind' hother hthere hrow
    rcases Memory.hasChild_of_enter h.owner h.id hthere with ⟨rfl, rfl, rfl⟩ | hthere
    · exact h.stored kind' other owner hkind' hother hrow
    · exact h.same o' kind' c' other owner hkind' hother hthere hrow
  case users =>
    intro o' c' hthere
    rcases Memory.hasChild_of_enter h.owner h.id hthere with ⟨-, rfl, -⟩ | hthere
    · exact absurd rfl hkind
    · exact h.users o' c' hthere
  case listed =>
    intro o' kind' hkind' hthere
    rcases Memory.hasChild_of_enter h.owner h.id hthere with ⟨rfl, -, -⟩ | hthere
    · rfl
    · exact h.listed o' kind' hkind' hthere

/-- What remains of an instance is under its id, and of its organization. -/
theorem remains {app : Instance} {snapshot : Snapshot} (h : Reserved ids stuck memory o c)
    (happ : app.instanceId = c ∧ app.organizationId = o)
    (hsnapshot : snapshot.instanceId = c ∧ snapshot.organizationId = o) (row entry copy : Bool) :
    Reserved ids stuck (memory.remains app snapshot row entry copy) o c := by
  obtain ⟨rfl, rfl⟩ := happ
  have hkind : ChildKind.appInstance ≠ .user := by decide
  refine Memory.remains_induction
    (motive := fun memory => Reserved ids stuck memory app.organizationId app.instanceId)
    h (fun h => ?_) (fun _ h => h.enter hkind) (fun _ h => ?_) row entry copy
  · exact h.put hkind (ChildKind.holds_table .appInstance) rfl rfl
  · exact h.put hkind ChildKind.holds_snapshots hsnapshot.1 (congrArg some hsnapshot.2)

end Reserved

/-! ### Changes -/

namespace Guarded

/-- One more user, under an address without one. -/
theorem put_user (h : Guarded ids stuck memory) {user : User}
    (habsent : memory.row? .users user.email = none) :
    Guarded ids stuck (memory.put .users user) := by
  -- no other kind has rows among the users
  have hother : ∀ kind table, kind ≠ .user → ChildKind.Holds kind table → table ≠ .users := by
    rintro kind table hkind htable rfl
    exact hkind (htable.eq (Or.inl rfl))
  refine
    { keyed := h.keyed.put .users user
      entries := h.entries
      rows := ?rows
      same := ?same
      users := ?users }
  case rows =>
    intro kind table c hkind htable hrow
    rw [Memory.ownerAt_put_of_ne (hother kind table hkind htable)] at hrow
    exact h.rows kind table c hkind htable hrow
  case same =>
    intro o kind c table owner hkind htable hlisted howner
    rw [Memory.ownerAt_put_of_ne (hother kind table hkind htable)] at howner
    exact h.same o kind c table owner hkind htable hlisted howner
  case users =>
    intro o c hlisted
    rw [Memory.ownerAt_put]
    split
    · next heq =>
      obtain ⟨-, rfl⟩ := heq
      -- a listed address without a user was left by a removal
      refine Or.inr ((h.users o _ hlisted).resolve_left fun howner => ?_)
      cases (Memory.ownerAt_eq_none.mpr habsent).symm.trans howner
    · exact h.users o c hlisted

/-- One more entry for an address, under the organization of its user. -/
theorem enter_user (h : Guarded ids stuck memory) (ho : Plain o) (hc : Plain c)
    (hrow : memory.ownerAt .users c = some (some o)) :
    Guarded ids stuck (memory.enter o .user c) := by
  refine
    { keyed := h.keyed.enter o .user c
      entries := ?entries
      rows := h.rows
      same := ?same
      users := ?users }
  case entries =>
    intro key hkey
    rw [Memory.contains_children_enter, Bool.or_eq_true, decide_eq_true_eq] at hkey
    rcases hkey with rfl | hkey
    · exact ⟨o, .user, c, rfl, ho, hc, fun hkind => absurd rfl hkind⟩
    · exact h.entries key hkey
  case same =>
    intro o' kind c' table owner hkind htable hlisted howner
    rcases Memory.hasChild_of_enter ho hc hlisted with ⟨-, rfl, -⟩ | hlisted
    · exact absurd rfl hkind
    · exact h.same o' kind c' table owner hkind htable hlisted howner
  case users =>
    intro o' c' hlisted
    rcases Memory.hasChild_of_enter ho hc hlisted with ⟨rfl, -, rfl⟩ | hlisted
    · exact Or.inl hrow
    · exact h.users o' c' hlisted

/-- One row less.  An address whose user goes is stuck, as far as it is listed. -/
theorem drop (h : Guarded ids stuck memory) (table : Table) (c : String)
    (hstuck : table = .users → stuck c) : Guarded ids stuck (memory.drop table c) := by
  refine h.fewer (h.keyed.drop table c) (fun _ other _ key owner howner => ?_) (fun _ => id)
    fun o' c' hlisted => ?_
  · rw [Memory.ownerAt_drop] at howner
    split at howner
    · cases howner
    · exact howner
  · rw [Memory.ownerAt_drop]
    split
    · next heq => exact Or.inr (heq.2 ▸ hstuck heq.1.symm)
    · exact h.users o' c' hlisted

/-- One entry less. -/
theorem leave (h : Guarded ids stuck memory) (o : String) (kind : ChildKind) (c : String) :
    Guarded ids stuck (memory.leave o kind c) := by
  have hchildren : ∀ key, (memory.leave o kind c).children.contains key = true →
      memory.children.contains key = true := by
    intro key hkey
    rw [Memory.contains_children_leave, Bool.and_eq_true] at hkey
    exact hkey.2
  exact h.fewer (h.keyed.leave o kind c) (fun _ _ _ _ _ => id) hchildren
    fun o' c' hlisted => h.users o' c' (hchildren _ hlisted)

/-- One instance less, its entry, and some of what came with it. -/
theorem remove_instance (h : Guarded ids stuck memory) (o c : String) (copy given : Bool) :
    Guarded ids stuck
      (let memory := (memory.drop .instances c).leave o .appInstance c
      let memory := if copy then memory else memory.drop .snapshots c
      if given then memory else memory.drop .parameters c) := by
  have hgone := (h.drop .instances c nofun).leave o .appInstance c
  exact Memory.removed_induction (motive := Guarded ids stuck) hgone
    (fun h => h.drop .snapshots c nofun) (fun _ h => h.drop .parameters c nofun) copy given

/-- One user less, and its entry. -/
theorem remove_user (h : Guarded ids stuck memory) (hlisted : memory.hasChild o .user c = true) :
    Guarded ids stuck ((memory.drop .users c).leave o .user c) := by
  have hchildren : ∀ key, ((memory.drop .users c).leave o .user c).children.contains key = true →
      key ≠ IndexKey.entry o .user c ∧ memory.children.contains key = true := by
    intro key hkey
    rwa [Memory.contains_children_leave, Bool.and_eq_true, decide_eq_true_eq] at hkey
  refine h.fewer ((h.keyed.drop .users c).leave o .user c) (fun _ other _ key owner howner => ?_)
    (fun key hkey => (hchildren key hkey).2) fun o' c' hthere => ?_
  · rw [Memory.ownerAt_leave, Memory.ownerAt_drop] at howner
    split at howner
    · cases howner
    · exact howner
  · obtain ⟨hne, hbefore⟩ := hchildren _ hthere
    rw [Memory.ownerAt_leave, Memory.ownerAt_drop]
    split
    · next heq =>
      -- another organization lists the address too, and only one of them can own its user
      obtain ⟨-, rfl⟩ := heq
      rcases h.users o' c' hbefore with howner | hstuck
      · rcases h.users o c' hlisted with howner' | hstuck
        · rw [howner] at howner'
          cases howner'
          exact absurd rfl hne
        · exact Or.inr hstuck
      · exact Or.inr hstuck
    · exact h.users o' c' hbefore

end Guarded

/-- The last call of a removal of a user was stopped. -/
def EntryStuck (operation : Operation) (trace : List Attempt) (o c : String) : Prop :=
  operation = .remove .user o c ∧
    ∃ error, (⟨.removeChild o .user c, some error⟩ : Attempt) ∈ trace

/-- **Every operation keeps rows guarded**, whatever is stopped, as long as ids are plain and do
not repeat. -/
theorem Effect.guarded {world world' : World Memory} {trace : List Attempt}
    {operation : Operation} {succeeded : Bool}
    (heffect : Effect world world' trace operation succeeded)
    (hext : world.ids.Extends world'.ids) (hplain : ∀ n, Plain (world'.ids.name n))
    (hinjective : Function.Injective world'.ids.name)
    (h : Guarded world.ids stuck world.store) :
    Guarded world'.ids (fun c => (∃ o, EntryStuck operation trace o c) ∨ stuck c)
      world'.store := by
  -- ids drawn so far stay drawn, and stuck addresses stay stuck
  have hlater := h.later hext fun c => Or.inr (a := ∃ o, EntryStuck operation trace o c)
  cases heffect with
  | unchanged store => exact store ▸ hlater
  | founded organization _ _ store =>
    rw [store]
    refine hlater.of_same (h.keyed.put .organizations organization)
      (fun kind table htable key => ?_) rfl
    exact Memory.ownerAt_put_of_ne htable.ne_organizations organization key
  | edited before after _ present owner store =>
    rw [store]
    refine hlater.of_same (h.keyed.put _ after) (fun kind table htable key => ?_) rfl
    exact Memory.ownerAt_put_of_owner present owner table key
  | @registered _ kind o row _ new _ store =>
    rw [store]
    have hkey := new.key
    split at hkey
    · next hkind =>
      subst hkind
      -- an address is new to the table, and then it is its user's
      refine (hlater.put_user new.absent).enter_user new.plain hkey ?_
      rw [Memory.ownerAt_put, if_pos ⟨rfl, rfl⟩]
      exact congrArg some new.owner
    · next hkind =>
      have hreserved := h.reserve hkey hext hinjective new.plain (hkey.plain hplain)
      have hput := hreserved.put hkind kind.holds_table rfl new.owner
      exact (hput.enter hkind).toGuarded.later (.refl _) fun _ => Or.inr
  | @stored _ kind o row _ new _ store =>
    rw [store]
    have hkey := new.key
    split at hkey
    · next hkind =>
      subst hkind
      exact hlater.put_user new.absent
    · next hkind =>
      have hreserved := h.reserve hkey hext hinjective new.plain (hkey.plain hplain)
      have hput := hreserved.put hkind kind.holds_table rfl new.owner
      exact hput.toGuarded.later (.refl _) fun _ => Or.inr
  | @removed kind o c row _ listed _ _ store =>
    rw [store]
    by_cases hkind : kind = .user
    · subst hkind
      exact hlater.remove_user listed
    · refine (hlater.drop kind.table c fun htable => ?_).leave o kind c
      have hsame : kind.table = ChildKind.table .user := htable
      exact absurd (ChildKind.table_inj hsame) hkind
  | @removedInstance o c app copy given _ _ _ store =>
    rw [store]
    exact hlater.remove_instance o c copy given
  | @dropped kind o c row _ _ _ _ cause store =>
    rw [store]
    -- this is where an address becomes stuck
    refine hlater.drop kind.table c fun htable => Or.inl ⟨o, ?_⟩
    obtain rfl : kind = .user := ChildKind.table_inj htable
    exact ⟨rfl, cause⟩
  | unlisted _ _ _ store => exact store ▸ hlater.leave _ _ _
  | launched app snapshot parameters new _ _ _ _ store =>
    rw [store]
    have hreserved := h.reserve new.issued hext hinjective new.plain (new.issued.plain hplain)
    have hremains := hreserved.remains ⟨rfl, new.owner⟩ ⟨new.snapshot_key, new.snapshot_owner⟩
      true true true
    refine Guarded.later ?_ (.refl _) fun _ => Or.inr
    cases parameters with
    | none => exact hremains.toGuarded
    | some given =>
      exact (hremains.put (by decide) ChildKind.holds_parameters (new.parameters_key given rfl)
        (congrArg some (new.parameters_owner given rfl))).toGuarded
  | remaining app snapshot _ new row entry copy _ _ _ _ _ store =>
    rw [store]
    have hreserved := h.reserve new.issued hext hinjective new.plain (new.issued.plain hplain)
    exact (hreserved.remains ⟨rfl, new.owner⟩ ⟨new.snapshot_key, new.snapshot_owner⟩
      row entry copy).toGuarded.later (.refl _) fun _ => Or.inr

/-! ### Runs -/

/-- An address whose entry was stuck in a run. -/
def Event.Stuck (c : String) (event : Event) : Prop :=
  ∃ o, EntryStuck event.operation event.trace o c

/-- **Rows are guarded after every run**, whatever was stopped. -/
theorem Runs.guarded {start world : World Store} {events : List Event}
    (hfresh : start.store.Fresh) (hplain : ∀ n, Plain (start.ids.name n))
    (hinjective : Function.Injective start.ids.name) (h : Runs start events world) :
    world.store.Faithful ∧
      Guarded world.ids (fun c => ∃ event ∈ events, event.Stuck c) world.store.contents := by
  induction h with
  | start => exact ⟨hfresh.faithful, hfresh.contents_eq ▸ .empty _ _⟩
  | @step events world world' operation time trace result before ends ih =>
    obtain ⟨hfaithful, hguarded⟩ := ih
    obtain ⟨heffect, hafter⟩ := Operation.effect_contents ends hfaithful hguarded.keyed
    -- all ids of a run are named by the source that it began with
    have hname := (before.step ends).extends.name
    have hstep := heffect.guarded (Program.Ends.extends ends).1 (fun n => hname ▸ hplain n)
      (hname ▸ hinjective) hguarded
    refine ⟨hafter, hstep.later (.refl _) fun c hstuck => ?_⟩
    rcases hstuck with hnow | ⟨event, hmem, hbefore⟩
    · exact ⟨_, List.mem_cons_self, hnow⟩
    · exact ⟨event, List.mem_cons_of_mem _ hmem, hbefore⟩

/-! ### Removals -/

/-- A row of some other organization is gone. -/
def DeletesForeign (o : String) (before after : Memory) : Prop :=
  ∃ table key owner, before.ownerAt table key = some (some owner) ∧ owner ≠ o ∧
    after.row? table key = none

/-- **What a removal deletes is of the child that is listed.** -/
theorem Effect.holds_of_gone {world world' : World Memory} {trace : List Attempt}
    {succeeded : Bool} (heffect : Effect world world' trace (.remove kind o c) succeeded)
    {table : Table} {key : String} {owner : Option String}
    (hthere : world.store.ownerAt table key = some owner)
    (hgone : world'.store.ownerAt table key = none) :
    kind.Holds table ∧ key = c ∧ world.store.hasChild o kind c = true := by
  -- a row that is gone was changed by the operation
  have hkept : ∀ memory : Memory, world'.store = memory →
      memory.ownerAt table key ≠ world.store.ownerAt table key := by
    rintro _ rfl hsame
    cases hgone.symm.trans (hsame.trans hthere)
  cases heffect with
  | unchanged store => exact absurd rfl (hkept _ store)
  | edited _ _ edits => cases edits
  | registered _ registers => cases registers
  | stored _ registers => cases registers
  | removed row _ listed _ _ store =>
    have hne := hkept _ store
    rw [Memory.ownerAt_leave, Memory.ownerAt_drop] at hne
    split at hne
    · next heq => exact ⟨Or.inl heq.1, heq.2, listed⟩
    · exact absurd rfl hne
  | removedInstance app copy given listed _ _ store =>
    have hne := hkept _ store
    by_cases hkey : key = c
    · refine ⟨?_, hkey, listed⟩
      by_contra hholds
      -- a table that holds nothing of an instance is not touched
      have hother : ∀ other, ChildKind.Holds .appInstance other → table ≠ other := by
        rintro other hother rfl
        exact hholds hother
      refine hne ?_
      dsimp only
      cases copy <;> cases given <;>
        simp [Memory.ownerAt_drop, hother .instances (Or.inl rfl),
          hother .snapshots ChildKind.holds_snapshots, hother .parameters ChildKind.holds_parameters]
    · refine absurd ?_ hne
      dsimp only
      cases copy <;> cases given <;> simp [Memory.ownerAt_drop, hkey]
  | dropped row _ listed _ _ _ store =>
    have hne := hkept _ store
    rw [Memory.ownerAt_drop] at hne
    split at hne
    · next heq => exact ⟨Or.inl heq.1, heq.2, listed⟩
    · exact absurd rfl hne
  | unlisted _ _ _ store => exact absurd (Memory.ownerAt_leave _ _ _ _ _ _) (hkept _ store)

/-- A removal deletes what is listed, whoever owns it. -/
theorem runWith_remove {world : World Memory} (hlisted : world.store.hasChild o kind c = true)
    {row : kind.Row} (hrow : world.store.row? kind.table c = some row) :
    (kind.remove o c).runWith .memory world =
      (.ok (), { world with store := (world.store.drop kind.table c).leave o kind c }) := by
  have hremovable : world.store.removable kind o c = .ok () :=
    Memory.removable_eq_ok.mpr ⟨hlisted, row, hrow⟩
  rw [ChildKind.runWith_remove, hremovable]
  rfl

/-- **A removal deletes a row of another organization if and only if the index
lists an address whose user is of another organization**, after operations of
which any calls were stopped; and then the last call of an earlier removal of
that address was stopped.  Ids are plain and do not repeat. -/
theorem deletes_foreign_iff {start world : World Store} {events : List Event}
    (hfresh : start.store.Fresh) (hplain : ∀ n, Plain (start.ids.name n))
    (hinjective : Function.Injective start.ids.name) (h : Runs start events world)
    (kind : ChildKind) (o c : String) :
    ((∃ time trace result world',
        (Operation.remove kind o c).procedure.Ends .store (world.at time) trace result world' ∧
          DeletesForeign o world.store.contents world'.store.contents) ↔
      kind = .user ∧ world.store.contents.hasChild o .user c = true ∧
        ∃ owner, world.store.contents.ownerAt .users c = some (some owner) ∧ owner ≠ o) ∧
    ((world.store.contents.hasChild o .user c = true ∧
        ∃ owner, world.store.contents.ownerAt .users c = some (some owner) ∧ owner ≠ o) →
      ∃ event ∈ events, event.Stuck c) := by
  obtain ⟨hfaithful, hguarded⟩ := h.guarded hfresh hplain hinjective
  refine ⟨⟨?_, ?_⟩, ?_⟩
  · rintro ⟨time, trace, result, world', hends, table, key, owner, hthere, hother, hgone⟩
    obtain ⟨heffect, -⟩ := Operation.effect_contents hends hfaithful hguarded.keyed
    obtain ⟨hholds, rfl, hlisted⟩ :=
      heffect.holds_of_gone hthere (Memory.ownerAt_eq_none.mpr hgone)
    -- an id is of one organization, so only a user can be foreign
    by_cases hkind : kind = .user
    · subst hkind
      rcases hholds with rfl | ⟨hkind, -⟩
      · exact ⟨rfl, hlisted, owner, hthere, hother⟩
      · cases hkind
    · have hsame := hguarded.same o kind key table _ hkind hholds hlisted hthere
      exact absurd (Option.some.inj hsame) hother
  · rintro ⟨rfl, hlisted, owner, howner, hother⟩
    -- no call needs to be stopped now; what was stopped before is enough
    obtain ⟨user, hrow, -⟩ := Memory.ownerAt_eq_some.mp howner
    obtain ⟨trace, -, hends⟩ := Procedure.ends_runWith .store
      (Operation.remove .user o c).procedure (world.at 0)
    refine ⟨0, trace, _, _, hends, .users, c, owner, howner, hother, ?_⟩
    have hat : (world.at 0).store.Faithful := hfaithful
    obtain ⟨-, hcontents, -⟩ :=
      Program.run_contents (Operation.remove .user o c).procedure.run hat
    have hrun : ((Operation.remove .user o c).procedure.runWith .memory (world.at 0).contents) =
        (.ok (), { (world.at 0).contents with
          store := (world.store.contents.drop .users c).leave o .user c }) :=
      runWith_remove hlisted hrow
    have hafter : ((Operation.remove .user o c).procedure.runWith .store
        (world.at 0)).2.store.contents = (world.store.contents.drop .users c).leave o .user c :=
      congrArg World.store (hcontents.trans (congrArg Prod.snd hrun))
    rw [hafter, Memory.row?_leave, Memory.row?_drop_self, if_pos rfl]
  · rintro ⟨hlisted, owner, howner, hother⟩
    -- a listed address is of a user of the organization unless it is stuck
    refine (hguarded.users o c hlisted).resolve_left fun hown => ?_
    rw [howner] at hown
    cases hown
    exact hother rfl

/-- An address stays listed for one organization, another adds a user with it, and a removal for
the first deletes that user. -/
theorem deletes_foreign_user :
    let start : World Store := { store := .memory .empty, ids := .sequential "id", clock := 0 }
    let steps : List (Operation × Int64 × List (Option StoreError)) :=
      [(.addOrganization { (default : NewOrganization) with name := "acme" }, 1, []),
        (.addOrganization { (default : NewOrganization) with name := "globex" }, 2, []),
        (.addUser { organizationId := "id-1", email := "sam@mail", name := "Sam" }, 3, []),
        (.remove .user "id-1" "sam@mail", 4, [none, none, some (.write "down")]),
        (.addUser { organizationId := "id-2", email := "sam@mail", name := "Sam" }, 5, [])]
    let world := start.afterStopping steps
    ∃ events, Runs start events world ∧
      (∃ time trace result world',
        (Operation.remove .user "id-1" "sam@mail").procedure.Ends .store (world.at time) trace
          result world' ∧ DeletesForeign "id-1" world.store.contents world'.store.contents) ∧
      ∃ event ∈ events, event.Stuck "sam@mail" := by
  intro start steps world
  have hlisted : world.store.contents.hasChild "id-1" .user "sam@mail" = true := by
    decide +kernel
  have howner : world.store.contents.ownerAt .users "sam@mail" = some (some "id-2") := by
    decide +kernel
  have hother : "id-2" ≠ "id-1" := by decide
  have hstart : Runs start [] start := .start
  obtain ⟨events, hruns⟩ := hstart.afterStopping steps
  obtain ⟨hiff, hstuck⟩ := deletes_foreign_iff (Or.inl rfl)
    (IdSource.plain_sequential (by decide)) (IdSource.sequential_injective "id") hruns .user
    "id-1" "sam@mail"
  exact ⟨events, hruns, hiff.mpr ⟨rfl, hlisted, "id-2", howner, hother⟩,
    hstuck ⟨hlisted, "id-2", howner, hother⟩⟩

end TenantRegistry
