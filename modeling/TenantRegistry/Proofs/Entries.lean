/-
TenantRegistry/Proofs/Entries.lean

What the index lists is there.

An entry of the index names a child of an organization.  The child is stored,
and belongs to that organization, unless the entry was left behind by a removal
of which the last call was stopped (`Backed`).  Any calls may be stopped, and
ids may repeat as long as they are plain.

Clusters are removed the other way round: the entry goes first and comes back
if the row stays.  So an entry for a cluster is never left behind, whatever is
stopped, and a listing of clusters finds a row for every id.  A row may well be
left behind by that order, and is then found by nobody.

Nothing is said of entries for instances.  An instance is made by several
writes, and what is left when these are undone may be an entry.

Main result: `listed_clusters_resolve`.
-/
import TenantRegistry.Proofs.Agreement
import TenantRegistry.Proofs.Outcomes

namespace TenantRegistry

open Procedure

/-! ### Entries that are left behind -/

/-- The row of a child was removed, and the call that deletes its entry was stopped.  It is the
other way round for clusters. -/
def Event.LeavesEntry (kind : ChildKind) (c : String) (event : Event) : Prop :=
  kind ≠ .cluster ∧ ∃ o, event.operation = .remove kind o c ∧
    ∃ error, (⟨.removeChild o kind c, some error⟩ : Attempt) ∈ event.trace

/-! ### The invariant -/

/-- **What is listed is there, and belongs to whom it is listed for**, unless its entry was left
behind. -/
structure Backed (left : ChildKind → String → Prop) (memory : Memory) : Prop where
  keyed : memory.Keyed
  /-- Entries have plain parts. -/
  plain : ∀ key, memory.children.contains key = true → ∃ o kind c,
    key = IndexKey.entry o kind c ∧ Plain o ∧ Plain c
  owners : ∀ o kind c, kind ≠ .appInstance → memory.hasChild o kind c = true →
    memory.ownerAt kind.table c = some (some o) ∨ left kind c

namespace Backed

variable {left left' : ChildKind → String → Prop} {memory : Memory} {kind : ChildKind}
  {o c : String} {table : Table}

theorem empty (left : ChildKind → String → Prop) : Backed left .empty where
  keyed := Memory.keyed_empty
  plain key h := by cases h
  owners o kind c _ h := by cases h

/-- More entries were left behind. -/
theorem later (h : Backed left memory) (hleft : ∀ kind c, left kind c → left' kind c) :
    Backed left' memory :=
  { h with owners := fun o kind c hkind hlisted =>
      (h.owners o kind c hkind hlisted).imp_right (hleft kind c) }

/-- A row is put that is owned as what was there. -/
theorem put (h : Backed left memory) {row : table.Row}
    (hsame : ∀ kind : ChildKind, kind ≠ .appInstance → kind.table = table → ∀ owner,
      memory.ownerAt table (table.key row) = some owner → table.owner? row = owner) :
    Backed left (memory.put table row) where
  keyed := h.keyed.put table row
  plain := h.plain
  owners o kind c hkind hlisted := by
    refine (h.owners o kind c hkind hlisted).imp_left fun howner => ?_
    exact Memory.ownerAt_put_of_some (hsame kind hkind) howner

/-- A row is put that is no child but an instance. -/
theorem put_aside (h : Backed left memory) (htable : table.Aside) (row : table.Row) :
    Backed left (memory.put table row) :=
  h.put fun kind hkind heq => absurd heq.symm (htable kind hkind)

/-- A row is put under a key that was free. -/
theorem put_new (h : Backed left memory) {row : table.Row}
    (habsent : memory.row? table (table.key row) = none) :
    Backed left (memory.put table row) := by
  refine h.put fun _ _ _ owner howner => ?_
  rw [Memory.ownerAt_eq_none.mpr habsent] at howner
  cases howner

/-- A child is entered when its row is there. -/
theorem enter (h : Backed left memory) (ho : Plain o) (hc : Plain c)
    (hrow : kind ≠ .appInstance → memory.ownerAt kind.table c = some (some o)) :
    Backed left (memory.enter o kind c) where
  keyed := h.keyed.enter o kind c
  plain key hkey := by
    rw [Memory.contains_children_enter, Bool.or_eq_true, decide_eq_true_eq] at hkey
    rcases hkey with rfl | hkey
    · exact ⟨o, kind, c, rfl, ho, hc⟩
    · exact h.plain key hkey
  owners o' kind' c' hkind hlisted := by
    rcases Memory.hasChild_of_enter ho hc hlisted with ⟨rfl, rfl, rfl⟩ | hlisted
    · exact Or.inl (hrow hkind)
    · exact h.owners o' kind' c' hkind hlisted

theorem leave (h : Backed left memory) (o : String) (kind : ChildKind) (c : String) :
    Backed left (memory.leave o kind c) where
  keyed := h.keyed.leave o kind c
  plain key hkey := by
    rw [Memory.contains_children_leave, Bool.and_eq_true] at hkey
    exact h.plain key hkey.2
  owners o' kind' c' hkind hlisted :=
    h.owners o' kind' c' hkind (Memory.hasChild_leave_iff.mp hlisted).2

/-- A row goes, and what lists it is left behind. -/
theorem drop (h : Backed left memory) {dropped : String}
    (hleft : ∀ o kind, kind.table = table → kind ≠ .appInstance →
      memory.hasChild o kind dropped = true → left kind dropped) :
    Backed left (memory.drop table dropped) where
  keyed := h.keyed.drop table dropped
  plain := h.plain
  owners o kind c hkind hlisted := by
    rw [Memory.ownerAt_drop]
    split
    · next heq =>
      obtain ⟨htable, rfl⟩ := heq
      exact Or.inr (hleft o kind htable hkind hlisted)
    · exact h.owners o kind c hkind hlisted

/-- A row goes that is no child but an instance. -/
theorem drop_aside (h : Backed left memory) (htable : table.Aside) (dropped : String) :
    Backed left (memory.drop table dropped) :=
  h.drop fun _ kind heq hkind => absurd heq.symm (htable kind hkind)

/-- **A row goes with its entry, and no other entry lists it.** -/
theorem remove (h : Backed left memory) (hlisted : memory.hasChild o kind c = true) :
    Backed left ((memory.drop kind.table c).leave o kind c) := by
  -- the order of the two does not matter
  show Backed left ((memory.leave o kind c).drop kind.table c)
  refine (h.leave o kind c).drop fun o' kind' htable hkind hstill => ?_
  obtain rfl := ChildKind.table_inj htable
  obtain ⟨hother, hstill⟩ := Memory.hasChild_leave_iff.mp hstill
  rcases h.owners o kind' c hkind hlisted with howner | hleft
  · rcases h.owners o' kind' c hkind hstill with howner' | hleft
    · -- a row has one owner
      obtain rfl : o' = o := Option.some.inj (Option.some.inj (howner'.symm.trans howner))
      exact absurd rfl hother
    · exact hleft
  · exact hleft

/-- What remains of an instance is listed as an instance. -/
theorem remains (h : Backed left memory) {app : Instance} (snapshot : Snapshot)
    (ho : Plain app.organizationId) (hc : Plain app.instanceId) (row entry copy : Bool) :
    Backed left (memory.remains app snapshot row entry copy) := by
  refine Memory.remains_induction h ?_ ?_ ?_ row entry copy
  · exact fun h => h.put_aside Table.aside_instances app
  · exact fun _ h => h.enter ho hc fun hkind => absurd rfl hkind
  · exact fun _ h => h.put_aside Table.aside_snapshots snapshot

end Backed

/-! ### Operations -/

/-- **Every operation keeps entries backed, or leaves one behind**, whatever is stopped, as long
as ids are plain. -/
theorem Effect.backed {world world' : World Memory} {trace : List Attempt}
    {operation : Operation} {succeeded : Bool} {left : ChildKind → String → Prop}
    (heffect : Effect world world' trace operation succeeded)
    (hplain : ∀ n, Plain (world'.ids.name n)) (h : Backed left world.store) :
    Backed
      (fun kind c => Event.LeavesEntry kind c ⟨operation, trace, succeeded⟩ ∨ left kind c)
      world'.store := by
  have hlater := h.later fun kind c =>
    Or.inr (a := Event.LeavesEntry kind c ⟨operation, trace, succeeded⟩)
  cases heffect with
  | unchanged store => exact store ▸ hlater
  | founded organization _ _ store =>
    exact store ▸ hlater.put_aside Table.aside_organizations organization
  | edited before after _ present owner store =>
    rw [store]
    refine hlater.put fun _ _ _ found hfound => ?_
    rw [Memory.ownerAt_of_row? present] at hfound
    exact owner.trans (Option.some.inj hfound)
  | registered row _ new _ store =>
    rw [store]
    refine (hlater.put_new new.absent).enter new.plain (new.plain_key hplain) fun _ => ?_
    rw [Memory.ownerAt_put, if_pos ⟨rfl, rfl⟩, new.owner]
  | stored row _ new _ store => exact store ▸ hlater.put_new new.absent
  | removed row _ listed _ _ store => exact store ▸ hlater.remove listed
  | @removedInstance o c app copy given _ _ _ store =>
    rw [store]
    have hgone := (hlater.drop_aside Table.aside_instances c).leave o .appInstance c
    exact Memory.removed_induction hgone (fun h => h.drop_aside Table.aside_snapshots c)
      (fun _ h => h.drop_aside Table.aside_parameters c) copy given
  | @dropped kind o c row others _ _ _ cause store =>
    rw [store]
    -- this is where an entry is left behind
    refine hlater.drop fun _ kind' htable _ _ => ?_
    obtain rfl := ChildKind.table_inj htable
    exact Or.inl ⟨others, o, rfl, cause⟩
  | unlisted _ _ _ store => exact store ▸ hlater.leave _ _ _
  | launched app snapshot parameters new _ _ _ _ store =>
    rw [store]
    have hremains := hlater.remains snapshot (new.owner ▸ new.plain)
      (new.issued.plain hplain) true true true
    cases parameters with
    | none => exact hremains
    | some given => exact hremains.put_aside Table.aside_parameters given
  | remaining app snapshot _ new row entry copy _ _ _ _ _ store =>
    exact store ▸ hlater.remains snapshot (new.owner ▸ new.plain) (new.issued.plain hplain) row
      entry copy

/-! ### Runs -/

/-- **What is listed is there after every run**, or its entry was left behind in it. -/
theorem Runs.backed {start world : World Store} {events : List Event}
    (hfresh : start.store.Fresh) (hplain : ∀ n, Plain (start.ids.name n))
    (h : Runs start events world) :
    world.store.Faithful ∧
      Backed (fun kind c => ∃ event ∈ events, event.LeavesEntry kind c)
        world.store.contents := by
  induction h with
  | start => exact ⟨hfresh.faithful, hfresh.contents_eq ▸ .empty _⟩
  | @step events world world' operation time trace result before ends ih =>
    obtain ⟨hfaithful, hbacked⟩ := ih
    obtain ⟨heffect, hafter⟩ := Operation.effect_contents ends hfaithful hbacked.keyed
    -- all ids of a run are named by the source that it began with
    have hname := (before.step ends).extends.name
    refine ⟨hafter, (heffect.backed (fun n => hname ▸ hplain n) hbacked).later ?_⟩
    intro kind c hleft
    rcases hleft with hnow | ⟨event, hmem, hbefore⟩
    · exact ⟨_, List.mem_cons_self, hnow⟩
    · exact ⟨event, List.mem_cons_of_mem _ hmem, hbefore⟩

/-! ### Clusters -/

namespace Backed

variable {left : ChildKind → String → Prop} {memory : Memory} {o c : String}

/-- A cluster that is listed is fetched, if no entry for a cluster was left behind. -/
theorem fetched (h : Backed left memory) (hnone : ¬ left .cluster c)
    (hlisted : memory.hasChild o .cluster c = true) :
    ∃ cluster, memory.Fetched .cluster o c cluster := by
  have howner := (h.owners o .cluster c nofun hlisted).resolve_right hnone
  obtain ⟨cluster, hrow, howner⟩ := Memory.ownerAt_eq_some.mp howner
  exact ⟨cluster, hlisted, hrow, howner⟩

/-- **For every id that is listed there is a cluster.** -/
theorem exists_clusters (h : Backed left memory) (hnone : ∀ c, ¬ left .cluster c)
    {ids : List String} (hids : ∀ c ∈ ids, memory.hasChild o .cluster c = true) :
    ∃ clusters : List Cluster, clusters.map (·.clusterId) = ids ∧
      ∀ cluster ∈ clusters, memory.Fetched .cluster o cluster.clusterId cluster := by
  induction ids with
  | nil => exact ⟨[], rfl, nofun⟩
  | cons c rest ih =>
    obtain ⟨hlisted, hrest⟩ := List.forall_mem_cons.mp hids
    obtain ⟨cluster, hfetched⟩ := h.fetched (hnone c) hlisted
    obtain ⟨clusters, rfl, hclusters⟩ := ih hrest
    have hkey : cluster.clusterId = c := h.keyed _ _ _ hfetched.present
    subst hkey
    exact ⟨cluster :: clusters, rfl, List.forall_mem_cons.mpr ⟨hfetched, hclusters⟩⟩

/-- **A listing has a cluster for every id.** -/
theorem runWith_list {world : World Memory} (h : Backed left world.store)
    (hnone : ∀ c, ¬ left .cluster c) {ids : List String}
    (hids : world.store.listChildren o .cluster = .ok ids) :
    ∃ clusters : List Cluster, clusters.map (·.clusterId) = ids ∧
      (∀ cluster ∈ clusters, world.store.Fetched .cluster o cluster.clusterId cluster) ∧
      (ChildKind.cluster.list o).runWith .memory world = (.ok clusters, world) := by
  have hlisted : ∀ c ∈ ids, world.store.hasChild o .cluster c = true := by
    rw [Memory.listChildren_eq] at hids
    split at hids
    · cases hids
      intro c hmem
      rwa [Memory.mem_listedIds_iff] at hmem
    · cases hids
  obtain ⟨clusters, rfl, hclusters⟩ := h.exists_clusters hnone hlisted
  have hperform : Memory.perform (.listChildren o .cluster) world.store =
      (.ok (clusters.map (·.clusterId)), world.store) := congrArg (·, world.store) hids
  refine ⟨clusters, rfl, hclusters, ?_⟩
  rw [ChildKind.list, runWith_bind_ok (runWith_perform hperform)]
  exact runWith_getAll fun cluster hmem =>
    ⟨(hclusters cluster hmem).present, (hclusters cluster hmem).owner⟩

end Backed

/-- **Every id that the index lists for an organization under clusters is of a cluster of that
organization**, after operations of which any calls were stopped, from an empty registry and with
plain ids.  So it can be fetched, and a listing has a cluster for every id.  A listing fails if the
index does not answer, and with that error. -/
theorem listed_clusters_resolve {start world : World Store} {events : List Event}
    (hfresh : start.store.Fresh) (hplain : ∀ n, Plain (start.ids.name n))
    (h : Runs start events world) (o : String) :
    (∀ c, (world.store.perform (.hasChild o .cluster c)).1 = .ok true →
      ∃ cluster : Cluster, (world.store.perform (.get .clusters c)).1 = .ok cluster ∧
        cluster.clusterId = c ∧ cluster.organizationId = o ∧
        ((Operation.get .cluster o c).procedure.runWith .store world).1 = .ok cluster) ∧
    (∀ ids, world.store.childIds o .cluster = .ok ids →
      ∃ clusters : List Cluster, clusters.map (·.clusterId) = ids ∧
        (∀ cluster ∈ clusters, cluster.organizationId = o ∧
          (world.store.perform (.get .clusters cluster.clusterId)).1 = .ok cluster) ∧
        ((Operation.list .cluster o).procedure.runWith .store world).1 = .ok clusters) ∧
    ∀ cause, world.store.childIds o .cluster = .error cause →
      ((Operation.list .cluster o).procedure.runWith .store world).1 = .error (.ofStore cause) := by
  obtain ⟨hfaithful, hbacked⟩ := h.backed hfresh hplain
  -- storage of either sort answers as its contents do
  have hanswer : world.store.childIds o .cluster = world.store.contents.listChildren o .cluster :=
    (hfaithful.perform (.listChildren o .cluster)).1
  have hnone : ∀ c, ¬ ∃ event ∈ events, event.LeavesEntry .cluster c := by
    rintro c ⟨event, -, hcluster, -⟩
    exact hcluster rfl
  refine ⟨?fetch, ?list, ?refused⟩
  case fetch =>
    intro c hlisted
    obtain ⟨cluster, hfetched⟩ :=
      hbacked.fetched (hnone c) (hfaithful.hasChild_eq_ok.mp hlisted)
    exact ⟨cluster, hfaithful.get_eq_ok.mpr hfetched.present,
      hbacked.keyed _ _ _ hfetched.present, Option.some.inj hfetched.owner,
      ChildKind.runWith_get_of_fetched hfaithful hfetched⟩
  case list =>
    intro ids hids
    rw [hanswer] at hids
    have hcontents : Backed _ world.contents.store := hbacked
    obtain ⟨clusters, hkeys, hclusters, hlist⟩ := hcontents.runWith_list hnone hids
    refine ⟨clusters, hkeys, fun cluster hmem => ?_, ?_⟩
    · have hfetched := hclusters cluster hmem
      exact ⟨Option.some.inj hfetched.owner, hfaithful.get_eq_ok.mpr hfetched.present⟩
    · rw [runWith_contents _ hfaithful]
      exact congrArg Prod.fst hlist
  case refused =>
    intro cause hcause
    rw [hanswer] at hcause
    rw [runWith_contents _ hfaithful]
    show ((ChildKind.cluster.list o).runWith .memory world.contents).1 = _
    have hperform : Memory.perform (.listChildren o .cluster) world.contents.store =
        (.error cause, world.contents.store) := congrArg (·, world.contents.store) hcause
    rw [ChildKind.list, runWith_bind_error (runWith_perform_error hperform)]

/-- The row of one cluster cannot be deleted, so that its entry comes back; with another one the
entry cannot come back either, and then its id is drawn again. -/
theorem listed_clusters_resolve_of_stopped_removals :
    let ids : IdSource :=
      { name := fun n => if n = 0 then "acme" else if n = 1 then "edge" else "core", drawn := 0 }
    let start : World Store := { store := .memory .empty, ids, clock := 0 }
    let down : Option StoreError := some (.write "down")
    let add : Operation := .addCluster { (default : NewCluster) with
      organizationId := "acme", name := "rack", hostname := "rack.acme" }
    let steps : List (Operation × Int64 × List (Option StoreError)) :=
      [(.addOrganization { (default : NewOrganization) with name := "acme" }, 1, []),
        (add, 2, []),
        (add, 3, []),
        (.remove .cluster "acme" "edge", 4, [none, none, none, down]),
        (.remove .cluster "acme" "core", 5, [none, none, none, down, down]),
        (add, 6, [])]
    let world := start.afterStopping steps
    ∃ events clusters, Runs start events world ∧
      world.store.contents.row? .clusters "core" ≠ none ∧
      world.store.childIds "acme" .cluster = .ok ["edge"] ∧
      clusters.map (·.clusterId) = ["edge"] ∧
      ((Operation.list .cluster "acme").procedure.runWith .store world).1 = .ok clusters := by
  intro ids start down add steps world
  have hplain : ∀ n, Plain (ids.name n) := by
    intro n
    show Plain (if n = 0 then "acme" else if n = 1 then "edge" else "core")
    split
    · decide
    · split <;> decide
  have hstart : Runs start [] start := .start
  obtain ⟨events, hruns⟩ := hstart.afterStopping steps
  have hleft : world.store.contents.row? .clusters "core" ≠ none := by decide +kernel
  have hids : world.store.childIds "acme" .cluster = .ok ["edge"] := by decide +kernel
  obtain ⟨-, hlist, -⟩ := listed_clusters_resolve (Or.inl rfl) hplain hruns "acme"
  obtain ⟨clusters, hkeys, -, hlisted⟩ := hlist _ hids
  exact ⟨events, clusters, hruns, hleft, hids, hkeys, hlisted⟩

end TenantRegistry
