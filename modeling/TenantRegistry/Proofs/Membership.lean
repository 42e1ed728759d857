/-
TenantRegistry/Proofs/Membership.lean

What an organization lists it owns, and the other way round.

A descriptor or an instance is found through the index, and then its row says
whose it is.  Both say the same as long as no call is stopped, however ids are
chosen: a new row enters the index under a plain organization, whose entries
are told apart from all others (`IndexKey.entry_inj`), and no descriptor and no
instance leaves it but under plain ids (`Operation.plain_of_remove`).  An id
that is drawn again does no harm, because a row is not made where one stands.

`Enrolled` says so of a state, and `Companions` that nothing of an instance is
stored without it.  The states are those that operations without stops lead to,
while others keep the inventory (`Attained`).

Main results: `Attained.enrolled`, `Enrolled.fetched_iff_listed` and `Enrolled.fetched_iff_owned`.
-/
import TenantRegistry.Proofs.Identifiers
import TenantRegistry.Proofs.Outcomes

namespace TenantRegistry

open Procedure

/-- The kinds of which applications are made. -/
def ChildKind.Application (kind : ChildKind) : Prop := kind = .descriptor ∨ kind = .appInstance

/-! ### Entries and owners -/

/-- **Descriptors and instances are listed for those who own them**, as far as ids are plain. -/
structure Enrolled (memory : Memory) : Prop where
  listed : ∀ {kind : ChildKind} {o c : String}, kind.Application → Plain o →
    memory.hasChild o kind c = true → memory.ownerAt kind.table c = some (some o)
  owned : ∀ {kind : ChildKind} {o c : String}, kind.Application → Plain o → Plain c →
    memory.ownerAt kind.table c = some (some o) → memory.hasChild o kind c = true

namespace Enrolled

variable {memory after : Memory} {kind : ChildKind} {o c : String}

theorem empty : Enrolled .empty where
  listed _ _ h := by cases h
  owned _ _ _ h := by
    rw [Memory.ownerAt_empty] at h
    cases h

/-- Rows of descriptors and of instances have the owners that they had, and nobody enters or
leaves. -/
theorem of_same (h : Enrolled memory)
    (howners : ∀ kind : ChildKind, kind.Application → ∀ c,
      after.ownerAt kind.table c = memory.ownerAt kind.table c)
    (hchildren : after.children = memory.children) : Enrolled after where
  listed hkind ho hlisted := by
    rw [howners _ hkind]
    rw [Memory.hasChild, hchildren] at hlisted
    exact h.listed hkind ho hlisted
  owned hkind ho hc howner := by
    rw [howners _ hkind] at howner
    rw [Memory.hasChild, hchildren]
    exact h.owned hkind ho hc howner

/-- A row of a table in which neither descriptors nor instances stand. -/
theorem put_aside (h : Enrolled memory) {table : Table} {row : table.Row}
    (htable : ∀ kind : ChildKind, kind.Application → kind.table ≠ table) :
    Enrolled (memory.put table row) :=
  h.of_same (fun kind hkind => Memory.ownerAt_put_of_ne (htable kind hkind) row) rfl

theorem drop_aside (h : Enrolled memory) {table : Table} (key : String)
    (htable : ∀ kind : ChildKind, kind.Application → kind.table ≠ table) :
    Enrolled (memory.drop table key) :=
  h.of_same (fun kind hkind => Memory.ownerAt_drop_of_ne (htable kind hkind) key) rfl

/-- A row under a free key, with its entry. -/
theorem register (h : Enrolled memory) {row : kind.Row} (ho : Plain o)
    (howner : kind.table.owner? row = some o)
    (habsent : memory.row? kind.table (kind.table.key row) = none) :
    Enrolled ((memory.put kind.table row).enter o kind (kind.table.key row)) where
  listed {kind' o' c'} hkind ho' hlisted := by
    rw [Memory.ownerAt_enter]
    rcases Memory.hasChild_enter_iff.mp hlisted with heq | hlisted
    · obtain ⟨rfl, rfl, rfl⟩ := IndexKey.entry_inj ho' ho heq
      rw [Memory.ownerAt_put, if_pos ⟨rfl, rfl⟩, howner]
    -- what was listed before has a row, and so it is not the new one
    · refine Memory.ownerAt_put_of_some (fun _ owner hheld => ?_) (h.listed hkind ho' hlisted)
      rw [Memory.ownerAt_eq_none.mpr habsent] at hheld
      cases hheld
  owned {kind' o' c'} hkind ho' hc' hheld := by
    rw [Memory.ownerAt_enter, Memory.ownerAt_put] at hheld
    refine Memory.hasChild_enter_iff.mpr ?_
    split at hheld
    · next heq =>
      obtain ⟨htable, rfl⟩ := heq
      obtain rfl := ChildKind.table_inj htable
      rw [howner] at hheld
      cases hheld
      exact Or.inl rfl
    · exact Or.inr (h.owned hkind ho' hc' hheld)

/-- A row goes, and its entry. -/
theorem remove (h : Enrolled memory) (ho : kind.Application → Plain o)
    (hlisted : memory.hasChild o kind c = true) :
    Enrolled ((memory.drop kind.table c).leave o kind c) where
  listed {kind' o' c'} hkind ho' hstill := by
    obtain ⟨hentry, hstill⟩ := Memory.hasChild_leave_iff.mp hstill
    have hheld := h.listed hkind ho' hstill
    rw [Memory.ownerAt_leave, Memory.ownerAt_drop, if_neg, hheld]
    rintro ⟨htable, rfl⟩
    obtain rfl := ChildKind.table_inj htable
    -- the row that goes has one owner, who lists it no more
    rw [h.listed hkind (ho hkind) hlisted] at hheld
    cases hheld
    exact hentry rfl
  owned {kind' o' c'} hkind ho' hc' hheld := by
    rw [Memory.ownerAt_leave, Memory.ownerAt_drop] at hheld
    split at hheld
    · cases hheld
    next hother =>
    refine Memory.hasChild_leave_iff.mpr ⟨fun heq => ?_, h.owned hkind ho' hc' hheld⟩
    obtain ⟨rfl, rfl, rfl⟩ := IndexKey.eq_of_entry_eq ho' hc' heq
    exact hother ⟨rfl, rfl⟩

/-- A child of another kind leaves the index. -/
theorem leave (h : Enrolled memory) (hother : ¬ kind.Application) :
    Enrolled (memory.leave o kind c) where
  listed hkind ho hstill := h.listed hkind ho (Memory.hasChild_leave_iff.mp hstill).2
  owned hkind ho' hc' hheld := by
    refine Memory.hasChild_leave_iff.mpr ⟨fun heq => ?_, h.owned hkind ho' hc' hheld⟩
    obtain ⟨-, rfl, -⟩ := IndexKey.eq_of_entry_eq ho' hc' heq
    exact hother hkind

/-- Where there is no row there is no entry. -/
theorem unlisted (h : Enrolled memory) (hkind : kind.Application) (ho : Plain o)
    (habsent : memory.row? kind.table c = none) : memory.hasChild o kind c = false := by
  refine Bool.eq_false_iff.mpr fun hlisted => ?_
  have hheld := h.listed hkind ho hlisted
  rw [Memory.ownerAt_eq_none.mpr habsent] at hheld
  cases hheld

end Enrolled

/-! ### What comes with an instance -/

/-- **Nothing of an instance is stored without the instance.** -/
def Companions (memory : Memory) : Prop :=
  ∀ table, ChildKind.Holds .appInstance table → ∀ c, memory.ownerAt table c ≠ none →
    memory.ownerAt .instances c ≠ none

namespace Companions

variable {memory after : Memory}

theorem empty : Companions .empty := by
  intro table _ c h
  exact absurd (Memory.ownerAt_empty table c) h

/-- Rows of instances, and of what comes with them, have the owners that they had. -/
theorem of_same (h : Companions memory)
    (howners : ∀ table, ChildKind.Holds .appInstance table → ∀ c,
      after.ownerAt table c = memory.ownerAt table c) : Companions after := by
  intro table htable c
  rw [howners table htable, howners .instances (ChildKind.holds_table .appInstance)]
  exact h table htable c

/-- A row is put whose instance is there, or that is the instance. -/
theorem put (h : Companions memory) {table : Table} {row : table.Row}
    (hthere : ChildKind.Holds .appInstance table →
      (memory.put table row).ownerAt .instances (table.key row) ≠ none) :
    Companions (memory.put table row) := by
  intro other hother c hheld
  rw [Memory.ownerAt_put] at hheld
  split at hheld
  · next heq =>
    obtain ⟨rfl, rfl⟩ := heq
    exact hthere hother
  · rw [Memory.ownerAt_put]
    split
    · exact nofun
    · exact h other hother c hheld

/-- An instance goes with all that came with it. -/
theorem remove_instance (h : Companions memory) (o i : String) :
    Companions ((((memory.drop .instances i).leave o .appInstance i).drop .snapshots i).drop
      .parameters i) := by
  intro table htable c hheld
  -- a row under the id of the instance would be one of those that went
  have hother : c ≠ i := by
    rintro rfl
    refine hheld ?_
    rcases htable with rfl | ⟨-, rfl | rfl⟩ <;>
      simp [Memory.ownerAt_drop, ChildKind.table]
  simp only [Memory.ownerAt_drop, Memory.ownerAt_leave, hother, and_false, if_false] at hheld ⊢
  exact h table htable c hheld

end Companions

/-! ### Operations without stops -/

/-- Whatever rows of other kinds become, instances and what comes with them stay. -/
theorem ChildKind.Holds.ne_of_ne {kind : ChildKind} (hkind : kind ≠ .appInstance) {table : Table}
    (h : ChildKind.Holds .appInstance table) : table ≠ kind.table := by
  rintro rfl
  exact hkind (h.eq kind.holds_table).symm

section Written

variable {world world' : World Memory}

/-- A new row of any kind but instances. -/
theorem Companions.put_row (h : Companions world.store) {kind : ChildKind}
    (hkind : kind ≠ .appInstance) (row : kind.Row) : Companions (world.store.put kind.table row) :=
  h.put fun htable => absurd rfl (htable.ne_of_ne hkind)

/-- A new instance with its snapshot and parameters. -/
theorem NewInstanceRows.enrolled {o : String} {app : Instance} {snapshot : Snapshot}
    {parameters : Option InstanceParameters}
    (new : NewInstanceRows world world' o app snapshot parameters)
    (absent : world.store.row? .instances app.instanceId = none)
    (henrolled : Enrolled world.store) (hcompanions : Companions world.store) :
    let after := (world.store.remains app snapshot true true true).putGiven .parameters parameters
    Enrolled after ∧ Companions after := by
  intro after
  have hsnapshots : ∀ kind : ChildKind, kind.Application → kind.table ≠ .snapshots :=
    fun kind _ => kind.table_ne_snapshots
  have hparameters : ∀ kind : ChildKind, kind.Application → kind.table ≠ .parameters :=
    fun kind _ => kind.table_ne_parameters
  obtain rfl := new.owner
  have howner : (ChildKind.table .appInstance).owner? app = some app.organizationId := rfl
  have hregistered : Enrolled ((world.store.put .instances app).enter app.organizationId
      .appInstance app.instanceId) := henrolled.register new.plain howner absent
  have hremains : Enrolled (world.store.remains app snapshot true true true) :=
    hregistered.put_aside hsnapshots
  -- the instance is stored first, and then what comes with it
  have hmade : ((world.store.put .instances app).enter app.organizationId .appInstance
      app.instanceId).ownerAt .instances app.instanceId ≠ none := by
    rw [Memory.ownerAt_enter, Memory.ownerAt_put, if_pos ⟨rfl, rfl⟩]
    exact nofun
  have hcopied : (world.store.remains app snapshot true true true).ownerAt .instances
      app.instanceId ≠ none := by
    rw [Memory.remains, if_pos rfl, if_pos rfl, if_pos rfl, Memory.ownerAt_put_of_ne (by decide)]
    exact hmade
  have hstored : Companions ((world.store.put .instances app).enter app.organizationId
      .appInstance app.instanceId) := hcompanions.put fun _ => hmade
  have hcompanions : Companions (world.store.remains app snapshot true true true) := by
    refine hstored.put fun _ => ?_
    rw [show Table.key .snapshots snapshot = app.instanceId from new.snapshot_key]
    exact hcopied
  cases parameters with
  | none => exact ⟨hremains, hcompanions⟩
  | some given =>
    refine ⟨hremains.put_aside hparameters, hcompanions.put fun _ => ?_⟩
    rw [show Table.key .parameters given = app.instanceId from new.parameters_key given rfl,
      Memory.ownerAt_put_of_ne (by decide)]
    exact hcopied

end Written

/-- **Every operation without stops leaves descriptors and instances listed for their owners**, and
nothing of an instance without it. -/
theorem Effect.enrolled {world world' : World Memory} {trace : List Attempt}
    {operation : Operation} {succeeded : Bool}
    (heffect : Effect world world' trace operation succeeded) (hstops : stops trace = 0)
    (hremoves : ∀ kind o c, operation = .remove kind o c → kind.Application →
      world'.store = world.store ∨ Plain o)
    (henrolled : Enrolled world.store) (hcompanions : Companions world.store) :
    Enrolled world'.store ∧ Companions world'.store := by
  by_cases hsame : world'.store = world.store
  · rw [hsame]
    exact ⟨henrolled, hcompanions⟩
  -- something was removed, and so under a plain id
  have hplain : ∀ kind o c, operation = .remove kind o c → kind.Application → Plain o :=
    fun kind o c heq hkind => (hremoves kind o c heq hkind).resolve_left hsame
  cases heffect with
  | unchanged store => exact absurd store hsame
  | founded organization _ _ store =>
    rw [store]
    refine ⟨henrolled.put_aside fun kind _ => kind.table_ne_organizations, ?_⟩
    exact hcompanions.put fun htable => absurd rfl htable.ne_organizations
  | edited before after _ present owner store _ =>
    have howners := Memory.ownerAt_put_of_owner present owner
    rw [store]
    exact ⟨henrolled.of_same (fun kind _ => howners kind.table) rfl,
      hcompanions.of_same fun table _ => howners table⟩
  | registered row registers new _ store _ =>
    rw [store]
    have hkind := Operation.registers?_ne_appInstance registers
    exact ⟨henrolled.register new.plain new.owner new.absent, hcompanions.put_row hkind row⟩
  | @stored operation kind o row registers new cause store draft =>
    have hkind := Operation.registers?_ne_appInstance registers
    rw [store]
    refine ⟨henrolled.put_aside fun kind' hkind' htable => ?_, hcompanions.put_row hkind row⟩
    obtain rfl := ChildKind.table_inj htable
    -- without stops it is an entry that was in the way, and the key of the row was free
    rcases cause with hlisted | ⟨-, attempt, hmem, hfault, -⟩ | hstopped
    · rw [henrolled.unlisted hkind' new.plain new.absent] at hlisted
      cases hlisted
    · exact stops_ne_zero hmem hfault hstops
    · omega
  | @removed kind o c row others listed _ _ store =>
    rw [store]
    refine ⟨henrolled.remove (hplain kind o c rfl) listed, hcompanions.of_same ?_⟩
    exact fun table htable => Memory.ownerAt_drop_of_ne (htable.ne_of_ne others) c
  | @removedInstance o i app copy given listed _ cause store =>
    -- nothing stopped the deletion of what came with the instance
    obtain rfl : copy = false := Bool.eq_false_iff.mpr fun h => cause (Or.inl h) hstops
    obtain rfl : given = false := Bool.eq_false_iff.mpr fun h => cause (Or.inr h) hstops
    rw [store]
    have hgone : Enrolled ((world.store.drop .instances i).leave o .appInstance i) :=
      henrolled.remove (hplain .appInstance o i rfl) listed
    refine ⟨(hgone.drop_aside i ?_).drop_aside i ?_, hcompanions.remove_instance o i⟩
    · exact fun kind _ => kind.table_ne_snapshots
    · exact fun kind _ => kind.table_ne_parameters
  | dropped _ _ _ _ _ cause =>
    obtain ⟨error, hmem⟩ := cause
    exact absurd hstops (stops_ne_zero hmem rfl)
  | unlisted _ _ _ store =>
    rw [store]
    refine ⟨henrolled.leave ?_, hcompanions⟩
    rintro (h | h) <;> cases h
  | launched app snapshot parameters new absent _ _ _ store =>
    rw [store]
    exact new.enrolled absent henrolled hcompanions
  | @remaining request app snapshot parameters new row entry copy _ absent _ _ cause store =>
    -- what could be in the way would be of an instance that is there
    have hfree := Memory.ownerAt_eq_none.mpr absent
    rcases cause with hstopped | hlisted | hcopy | hgiven
    · omega
    · rw [henrolled.unlisted (Or.inr rfl) new.plain absent] at hlisted
      cases hlisted
    · exact absurd hfree (hcompanions .snapshots ChildKind.holds_snapshots _
        fun hnone => hcopy (Memory.ownerAt_eq_none.mp hnone))
    · exact absurd hfree (hcompanions .parameters ChildKind.holds_parameters _
        fun hnone => hgiven (Memory.ownerAt_eq_none.mp hnone))

/-! ### States without stops -/

/-- **A step without stops leaves descriptors and instances listed for their owners**, and nothing
of an instance without it. -/
theorem Step.enrolled {world world' : World Store} {happening : Happening}
    (h : Step world happening world') (hstops : happening.Unstopped)
    (hread : world.store.Faithful ∧ world.store.contents.Keyed)
    (hbefore : Enrolled world.store.contents ∧ Companions world.store.contents) :
    Enrolled world'.store.contents ∧ Companions world'.store.contents := by
  obtain ⟨hfaithful, hkeyed⟩ := hread
  obtain ⟨henrolled, hcompanions⟩ := hbefore
  cases h with
  | @operation _ operation time trace _ ends =>
    obtain ⟨heffect, -⟩ := Operation.effect_contents ends hfaithful hkeyed
    refine heffect.enrolled hstops ?_ henrolled hcompanions
    -- descriptors and instances are removed under plain ids, or not at all
    rintro kind o c rfl hkind
    obtain ⟨hends, -⟩ := Program.ends_contents ends hfaithful
    exact (Operation.plain_of_remove (Or.inr hkind) hends).imp (congrArg World.store) And.left
  | @inventory call aside =>
    rw [(hfaithful.perform call).2.1]
    obtain ⟨hrows, hchildren⟩ := aside.frame world.store.contents
    have howners : ∀ table : Table, ¬ table.Inventory → ∀ c,
        (world.store.contents.perform call).2.ownerAt table c =
          world.store.contents.ownerAt table c := by
      intro table htable c
      rw [Memory.ownerAt, Memory.ownerAt, hrows table htable]
    refine ⟨henrolled.of_same (fun kind _ => howners kind.table kind.not_inventory) hchildren,
      hcompanions.of_same fun table htable => howners table ?_⟩
    rcases htable with rfl | ⟨-, rfl | rfl⟩ <;> exact id

namespace Attained

variable {start world : World Store}

/-- **Without stops descriptors and instances are listed for their owners**, however ids are
chosen. -/
theorem enrolled (hfresh : start.store.Fresh) (h : Attained start world) :
    Enrolled world.store.contents ∧ Companions world.store.contents := by
  obtain ⟨happenings, hrun⟩ := h
  suffices hall : (world.store.Faithful ∧ world.store.contents.Keyed) ∧
      Enrolled world.store.contents ∧ Companions world.store.contents from hall.2
  refine hrun.keeps ?_ fun _ _ _ last hbefore =>
    ⟨last.1.faithful hbefore.1, last.1.enrolled last.2 hbefore.1 hbefore.2⟩
  rw [hfresh.contents_eq]
  exact ⟨⟨hfresh.faithful, Memory.keyed_empty⟩, .empty, .empty⟩

/-- **Without stops each id is in one place**, if ids do not repeat. -/
theorem assigned (hfresh : start.store.Fresh) (hinjective : Function.Injective start.ids.name)
    (h : Attained start world) : Assigned start.ids world.ids world.store.contents := by
  obtain ⟨happenings, hrun⟩ := h.steps
  exact hrun.assigned hfresh hinjective

end Attained

/-! ### What is fetched -/

namespace Enrolled

variable {memory : Memory} {kind : ChildKind} {o c : String} {row : kind.Row}

/-- **What is listed is fetched**, and nothing else. -/
theorem fetched_iff_listed (h : Enrolled memory) (hkind : kind.Application) (ho : Plain o) :
    memory.Fetched kind o c row ↔
      memory.hasChild o kind c = true ∧ memory.row? kind.table c = some row := by
  refine ⟨fun hfetched => ⟨hfetched.listed, hfetched.present⟩, ?_⟩
  rintro ⟨hlisted, hrow⟩
  have howner := h.listed hkind ho hlisted
  rw [Memory.ownerAt_of_row? hrow] at howner
  exact ⟨hlisted, hrow, Option.some.inj howner⟩

/-- **What is owned is fetched**, and nothing else. -/
theorem fetched_iff_owned (h : Enrolled memory) (hkind : kind.Application) (ho : Plain o)
    (hc : Plain c) :
    memory.Fetched kind o c row ↔
      memory.row? kind.table c = some row ∧ kind.table.owner? row = some o := by
  refine ⟨fun hfetched => ⟨hfetched.present, hfetched.owner⟩, ?_⟩
  rintro ⟨hrow, howner⟩
  refine ⟨h.owned hkind ho hc ?_, hrow, howner⟩
  rw [Memory.ownerAt_of_row? hrow, howner]

end Enrolled

end TenantRegistry
