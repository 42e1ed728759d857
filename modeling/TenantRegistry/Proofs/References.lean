/-
TenantRegistry/Proofs/References.lean

What rows refer to is there.

A node names the cluster that it is assigned to, and an instance the descriptor
that it was made from.  Both were looked up when the name was written, and
neither cluster nor descriptor is removed while something of its organization
names it.

A removal looks for names among the rows of one organization, and deletes a
row without a look at whose row it is.  That is sound as long as an
organization lists no cluster and no descriptor of another (`Attributed`,
`Referenced`).  For clusters this holds however ids are chosen, because a
cluster leaves the index before its row goes.  A descriptor leaves it after its
row, so that an entry may stay without a row; then only ids that do not repeat
keep the entry from listing another row one day.

Main result: `references_resolve`.
-/
import TenantRegistry.Proofs.Consistency
import TenantRegistry.Proofs.Runs

namespace TenantRegistry

/-! ### References -/

/-- What a row refers to: a node to the cluster that it is assigned to, and an instance to its
descriptor. -/
def Table.reference? : (table : Table) → table.Row → Option (ChildKind × String)
  | .nodes, node => node.clusterId.map (ChildKind.cluster, ·)
  | .instances, app => some (.descriptor, app.descriptorId)
  | _, _ => none

/-- The kinds that rows refer to. -/
def ChildKind.Referable (kind : ChildKind) : Prop := kind = .cluster ∨ kind = .descriptor

section Rows

variable {table : Table} {row : table.Row} {kind : ChildKind} {c : String}

/-- Rows refer to clusters and descriptors only. -/
theorem ChildKind.referable_of_reference? (h : table.reference? row = some (kind, c)) :
    kind.Referable := by
  cases table with
  | nodes =>
    obtain ⟨_, -, heq⟩ := Option.map_eq_some_iff.mp h
    cases heq
    exact Or.inl rfl
  | instances =>
    cases h
    exact Or.inr rfl
  | _ => cases h

/-- Nothing of the organization that an unused child belongs to refers to it. -/
theorem Memory.Unused.reference?_ne {memory : Memory} {o key : String}
    (h : memory.Unused o kind c) (hrow : memory.row? table key = some row)
    (howner : table.owner? row = some o) : table.reference? row ≠ some (kind, c) := by
  intro hreference
  cases table with
  | nodes =>
    obtain ⟨_, hcluster, heq⟩ := Option.map_eq_some_iff.mp hreference
    cases heq
    exact h key row hrow (Option.some.inj howner) hcluster
  | instances =>
    cases hreference
    exact h key row hrow (Option.some.inj howner) rfl
  | _ => cases hreference

end Rows

/-! ### References that resolve -/

/-- What a row refers to is there, and has the owner of the row. -/
def Memory.Resolved (memory : Memory) : Prop :=
  ∀ (table : Table) key (row : table.Row) kind c, memory.row? table key = some row →
    table.reference? row = some (kind, c) →
    memory.ownerAt kind.table c = some (table.owner? row)

namespace Memory.Resolved

variable {memory : Memory} {table : Table}

theorem empty : Memory.empty.Resolved := by
  intro table key row kind c h
  rw [row?_empty] at h
  cases h

/-- A row is put that is owned as what was there, and whose reference is there. -/
theorem put (h : memory.Resolved) {row : table.Row}
    (hsame : table = .clusters ∨ table = .descriptors → ∀ owner,
      memory.ownerAt table (table.key row) = some owner → table.owner? row = owner)
    (hreference : ∀ kind c, table.reference? row = some (kind, c) →
      memory.ownerAt kind.table c = some (table.owner? row)) :
    (memory.put table row).Resolved := by
  intro other key found kind c hfound href
  -- whoever owns a cluster or a descriptor still does
  have hkept : ∀ owner, memory.ownerAt kind.table c = some owner →
      (memory.put table row).ownerAt kind.table c = some owner := by
    intro owner howner
    refine ownerAt_put_of_some (fun htable => hsame ?_) howner
    rcases ChildKind.referable_of_reference? href with rfl | rfl
    · exact Or.inl htable.symm
    · exact Or.inr htable.symm
  by_cases hother : other = table
  · subst hother
    rw [row?_put_self] at hfound
    split at hfound
    · cases hfound
      exact hkept _ (hreference kind c href)
    · exact hkept _ (h other key found kind c hfound href)
  · rw [row?_put_of_ne _ _ hother] at hfound
    exact hkept _ (h other key found kind c hfound href)

/-- A row goes that nothing refers to. -/
theorem drop (h : memory.Resolved) {dropped : String}
    (hunreferred : ∀ (other : Table) key (row : other.Row) kind, memory.row? other key = some row →
      other.reference? row = some (kind, dropped) → kind.table ≠ table) :
    (memory.drop table dropped).Resolved := by
  intro other key row kind c hrow hreference
  have hbefore := row?_of_drop hrow
  rw [ownerAt_drop, if_neg]
  · exact h other key row kind c hbefore hreference
  · rintro ⟨htable, rfl⟩
    exact hunreferred other key row kind hbefore hreference htable

/-- A row of a table that neither refers to anything nor is referred to. -/
theorem put_aside (h : memory.Resolved) {row : table.Row}
    (htable : table ≠ .clusters ∧ table ≠ .descriptors) (hreference : table.reference? row = none) :
    (memory.put table row).Resolved := by
  refine h.put (fun heq => (heq.elim htable.1 htable.2).elim) fun kind c href => ?_
  rw [hreference] at href
  cases href

/-- A row of a table that is not referred to. -/
theorem drop_aside (h : memory.Resolved) (dropped : String)
    (htable : table ≠ .clusters ∧ table ≠ .descriptors) : (memory.drop table dropped).Resolved := by
  refine h.drop fun other key row kind _ hreference heq => ?_
  rcases ChildKind.referable_of_reference? hreference with rfl | rfl
  · exact htable.1 heq.symm
  · exact htable.2 heq.symm

/-- **Nothing refers to what is not there.** -/
theorem unused_of_absent (h : memory.Resolved) {kind : ChildKind} {c : String}
    (habsent : memory.row? kind.table c = none) (o : String) : memory.Unused o kind c := by
  have hnone := ownerAt_eq_none.mpr habsent
  cases kind with
  | cluster =>
    intro key node hrow _ hcluster
    have hreference : Table.reference? .nodes node = some (.cluster, c) := by
      rw [Table.reference?, hcluster]
      rfl
    cases hnone.symm.trans (h .nodes key node _ _ hrow hreference)
  | descriptor =>
    rintro key app hrow - rfl
    cases hnone.symm.trans (h .instances key app _ _ hrow rfl)
  | _ => trivial

end Memory.Resolved

/-! ### Clusters that are listed -/

/-- **A cluster that is listed is there, and belongs to whom it is listed for**, if that is an
organization with a plain id; and owners have plain ids. -/
structure Attributed (memory : Memory) : Prop where
  keyed : memory.Keyed
  plain : ∀ table c o, memory.ownerAt table c = some (some o) → Plain o
  clusters : ∀ o c, Plain o → memory.hasChild o .cluster c = true →
    memory.ownerAt .clusters c = some (some o)

namespace Attributed

variable {memory : Memory} {o c : String} {kind : ChildKind}

theorem empty : Attributed .empty where
  keyed := Memory.keyed_empty
  plain table c o h := by
    rw [Memory.ownerAt_empty] at h
    cases h
  clusters o c _ h := by cases h

theorem put (h : Attributed memory) {table : Table} {row : table.Row}
    (hplain : ∀ o, table.owner? row = some o → Plain o)
    (hsame : table = .clusters → ∀ owner, memory.ownerAt table (table.key row) = some owner →
      table.owner? row = owner) :
    Attributed (memory.put table row) := by
  refine { keyed := h.keyed.put table row, plain := ?plain, clusters := ?clusters }
  case plain =>
    intro other c o howner
    rw [Memory.ownerAt_put] at howner
    split at howner
    · exact hplain o (Option.some.inj howner)
    · exact h.plain other c o howner
  case clusters =>
    intro o c ho hlisted
    exact Memory.ownerAt_put_of_some (fun heq => hsame heq.symm) (h.clusters o c ho hlisted)

/-- A cluster is entered when its row is there. -/
theorem enter (h : Attributed memory) (ho : Plain o)
    (hcluster : kind = .cluster → memory.ownerAt .clusters c = some (some o)) :
    Attributed (memory.enter o kind c) := by
  refine { keyed := h.keyed.enter o kind c, plain := h.plain, clusters := ?_ }
  intro o' c' ho' hlisted
  rcases Memory.hasChild_enter_iff.mp hlisted with heq | hlisted
  · obtain ⟨rfl, rfl, rfl⟩ := IndexKey.entry_inj ho' ho heq
    exact hcluster rfl
  · exact h.clusters o' c' ho' hlisted

theorem leave (h : Attributed memory) (o : String) (kind : ChildKind) (c : String) :
    Attributed (memory.leave o kind c) := by
  refine { keyed := h.keyed.leave o kind c, plain := h.plain, clusters := ?_ }
  intro o' c' ho' hlisted
  exact h.clusters o' c' ho' (Memory.hasChild_leave_iff.mp hlisted).2

/-- A cluster goes when it is not listed. -/
theorem drop (h : Attributed memory) {table : Table} {dropped : String}
    (hunlisted : table = .clusters → ∀ o, Plain o → memory.hasChild o .cluster dropped = false) :
    Attributed (memory.drop table dropped) := by
  refine { keyed := h.keyed.drop table dropped, plain := ?plain, clusters := ?clusters }
  case plain =>
    intro other c o howner
    rw [Memory.ownerAt_drop] at howner
    split at howner
    · cases howner
    · exact h.plain other c o howner
  case clusters =>
    intro o c ho hlisted
    rw [Memory.ownerAt_drop, if_neg]
    · exact h.clusters o c ho hlisted
    · rintro ⟨htable, rfl⟩
      have hgone := hunlisted htable.symm o ho
      exact absurd (hlisted.symm.trans hgone) (by decide)

/-- Where one organization listed a cluster nobody lists it after it left. -/
theorem unlisted_leave (h : Attributed memory) (ho : Plain o)
    (hlisted : memory.hasChild o .cluster c = true) {o' : String} (ho' : Plain o') :
    (memory.leave o .cluster c).hasChild o' .cluster c = false := by
  refine Bool.eq_false_iff.mpr fun hstill => ?_
  obtain ⟨hother, hstill⟩ := Memory.hasChild_leave_iff.mp hstill
  -- a cluster has one owner
  have howner := h.clusters o c ho hlisted
  rw [h.clusters o' c ho' hstill] at howner
  obtain rfl : o' = o := Option.some.inj (Option.some.inj howner)
  exact hother rfl

end Attributed

/-! ### The invariant -/

/-- **What rows refer to is there, and has the same owner.** -/
structure Referenced (ids : IdSource) (memory : Memory) : Prop extends Attributed memory where
  /-- Descriptors are listed under ids that were drawn. -/
  drawn : ∀ o c, Plain o → memory.hasChild o .descriptor c = true → ids.Drawn c
  /-- A descriptor that is listed belongs to whom it is listed for, if it is there. -/
  descriptors : ∀ o c owner, Plain o → memory.hasChild o .descriptor c = true →
    memory.ownerAt .descriptors c = some owner → owner = some o
  resolved : ∀ (table : Table) key (row : table.Row) kind c, memory.row? table key = some row →
    table.reference? row = some (kind, c) →
    memory.ownerAt kind.table c = some (table.owner? row)

namespace Referenced

variable {ids ids' : IdSource} {memory : Memory} {o c : String} {kind : ChildKind}

theorem empty (ids : IdSource) : Referenced ids .empty where
  toAttributed := .empty
  drawn o c _ h := by cases h
  descriptors o c owner _ h := by cases h
  resolved table key row kind c h := by
    rw [Memory.row?_empty] at h
    cases h

theorem later (h : Referenced ids memory) (hext : ids.Extends ids') : Referenced ids' memory :=
  { h with drawn := fun o c ho hlisted => (h.drawn o c ho hlisted).later hext }

/-- What can be referred to belongs to whom it is listed for. -/
theorem owner_eq (h : Referenced ids memory) (hkind : kind.Referable) (ho : Plain o)
    (hlisted : memory.hasChild o kind c = true) {owner : Option String}
    (howner : memory.ownerAt kind.table c = some owner) : owner = some o := by
  rcases hkind with rfl | rfl
  · rw [h.clusters o c ho hlisted] at howner
    exact (Option.some.inj howner).symm
  · exact h.descriptors o c owner ho hlisted howner

/-- **A child that nothing of its organization refers to nothing refers to.** -/
theorem unreferred (h : Referenced ids memory) (ho : kind.Referable → Plain o)
    (hlisted : memory.hasChild o kind c = true) (hunused : memory.Unused o kind c) (table : Table)
    (key : String) (row : table.Row) (hrow : memory.row? table key = some row) :
    table.reference? row ≠ some (kind, c) := by
  intro hreference
  have hkind := ChildKind.referable_of_reference? hreference
  have howner :=
    h.owner_eq hkind (ho hkind) hlisted (h.resolved table key row kind c hrow hreference)
  exact hunused.reference?_ne hrow howner hreference

/-! ### Changes that keep it -/

/-- A row is put that is owned as what was there, and whose reference is there. -/
theorem put (h : Referenced ids memory) {table : Table} {row : table.Row}
    (hplain : ∀ o, table.owner? row = some o → Plain o)
    (hsame : table = .clusters ∨ table = .descriptors → ∀ owner,
      memory.ownerAt table (table.key row) = some owner → table.owner? row = owner)
    (hlisted : table = .descriptors → ∀ o, Plain o →
      memory.hasChild o .descriptor (table.key row) = true → table.owner? row = some o)
    (hreference : ∀ kind c, table.reference? row = some (kind, c) →
      memory.ownerAt kind.table c = some (table.owner? row)) :
    Referenced ids (memory.put table row) := by
  refine
    { toAttributed := h.toAttributed.put hplain fun htable => hsame (Or.inl htable)
      drawn := h.drawn
      descriptors := ?descriptors
      resolved := ?resolved }
  case descriptors =>
    intro o c owner ho hchild howner
    rw [Memory.ownerAt_put] at howner
    split at howner
    · next heq =>
      obtain ⟨htable, rfl⟩ := heq
      rw [← Option.some.inj howner]
      exact hlisted htable.symm o ho hchild
    · exact h.descriptors o c owner ho hchild howner
  case resolved => exact Memory.Resolved.put h.resolved hsame hreference

/-- A row of a table that neither refers to anything nor is referred to. -/
theorem put_aside (h : Referenced ids memory) {table : Table} {row : table.Row}
    (htable : table = .organizations ∨ table = .snapshots ∨ table = .parameters)
    (hplain : ∀ o, table.owner? row = some o → Plain o) : Referenced ids (memory.put table row) := by
  rcases htable with rfl | rfl | rfl
  · exact h.put hplain (by simp) nofun nofun
  · exact h.put hplain (by simp) nofun nofun
  · exact h.put hplain (by simp) nofun nofun

theorem enter (h : Referenced ids memory) (ho : Plain o)
    (hcluster : kind = .cluster → memory.ownerAt .clusters c = some (some o))
    (hdescriptor : kind = .descriptor →
      ids.Drawn c ∧ ∀ owner, memory.ownerAt .descriptors c = some owner → owner = some o) :
    Referenced ids (memory.enter o kind c) := by
  -- an entry for a descriptor is the new one, or was there before
  have hentry : ∀ o' c', Plain o' → (memory.enter o kind c).hasChild o' .descriptor c' = true →
      (o' = o ∧ kind = .descriptor ∧ c' = c) ∨ memory.hasChild o' .descriptor c' = true := by
    intro o' c' ho' hlisted
    refine (Memory.hasChild_enter_iff.mp hlisted).imp_left fun heq => ?_
    obtain ⟨rfl, rfl, rfl⟩ := IndexKey.entry_inj ho' ho heq
    exact ⟨rfl, rfl, rfl⟩
  refine
    { toAttributed := h.toAttributed.enter ho hcluster
      drawn := ?drawn
      descriptors := ?descriptors
      resolved := h.resolved }
  case drawn =>
    intro o' c' ho' hlisted
    rcases hentry o' c' ho' hlisted with ⟨rfl, hkind, rfl⟩ | hlisted
    · exact (hdescriptor hkind).1
    · exact h.drawn o' c' ho' hlisted
  case descriptors =>
    intro o' c' owner ho' hlisted howner
    rcases hentry o' c' ho' hlisted with ⟨rfl, hkind, rfl⟩ | hlisted
    · exact (hdescriptor hkind).2 owner howner
    · exact h.descriptors o' c' owner ho' hlisted howner

theorem leave (h : Referenced ids memory) (o : String) (kind : ChildKind) (c : String) :
    Referenced ids (memory.leave o kind c) := by
  have hentry : ∀ o' c', (memory.leave o kind c).hasChild o' .descriptor c' = true →
      memory.hasChild o' .descriptor c' = true :=
    fun o' c' hlisted => (Memory.hasChild_leave_iff.mp hlisted).2
  refine
    { toAttributed := h.toAttributed.leave o kind c
      drawn := ?drawn
      descriptors := ?descriptors
      resolved := h.resolved }
  case drawn =>
    intro o' c' ho' hlisted
    exact h.drawn o' c' ho' (hentry o' c' hlisted)
  case descriptors =>
    intro o' c' owner ho' hlisted
    exact h.descriptors o' c' owner ho' (hentry o' c' hlisted)

/-- A row goes that nothing refers to. -/
theorem drop (h : Referenced ids memory) {table : Table} {dropped : String}
    (hunlisted : table = .clusters → ∀ o, Plain o → memory.hasChild o .cluster dropped = false)
    (hunreferred : ∀ (other : Table) key (row : other.Row) kind, memory.row? other key = some row →
      other.reference? row = some (kind, dropped) → kind.table ≠ table) :
    Referenced ids (memory.drop table dropped) := by
  refine
    { toAttributed := h.toAttributed.drop hunlisted
      drawn := h.drawn
      descriptors := ?descriptors
      resolved := ?resolved }
  case descriptors =>
    intro o c owner ho hlisted howner
    rw [Memory.ownerAt_drop] at howner
    split at howner
    · cases howner
    · exact h.descriptors o c owner ho hlisted howner
  case resolved => exact Memory.Resolved.drop h.resolved hunreferred

/-- A row of a table that is not referred to. -/
theorem drop_aside (h : Referenced ids memory) {table : Table} (dropped : String)
    (htable : table ≠ .clusters ∧ table ≠ .descriptors) :
    Referenced ids (memory.drop table dropped) := by
  refine h.drop (fun heq => absurd heq htable.1) fun other key row kind _ hreference heq => ?_
  rcases ChildKind.referable_of_reference? hreference with rfl | rfl
  · exact htable.1 heq.symm
  · exact htable.2 heq.symm

/-- A child goes that nothing refers to, and its entry may stay unless it is a cluster. -/
theorem drop_child (h : Referenced ids memory)
    (hunreferred : ∀ (table : Table) key (row : table.Row), memory.row? table key = some row →
      table.reference? row ≠ some (kind, c))
    (hunlisted : kind = .cluster → ∀ o, Plain o → memory.hasChild o .cluster c = false) :
    Referenced ids (memory.drop kind.table c) := by
  refine h.drop (fun htable => hunlisted (ChildKind.table_inj htable))
    fun table key row kind' hrow hreference htable => ?_
  obtain rfl := ChildKind.table_inj htable
  exact hunreferred table key row hrow hreference

/-- **An unused child goes, and its entry too.** -/
theorem remove (h : Referenced ids memory) (ho : kind.Referable → Plain o)
    (hlisted : memory.hasChild o kind c = true) (hunused : memory.Unused o kind c) :
    Referenced ids ((memory.drop kind.table c).leave o kind c) := by
  -- the order of the two does not matter, and without its entry the child is listed nowhere
  show Referenced ids ((memory.leave o kind c).drop kind.table c)
  refine (h.leave o kind c).drop_child (h.unreferred ho hlisted hunused) ?_
  rintro rfl o' ho'
  exact h.unlisted_leave (ho (Or.inl rfl)) hlisted ho'

end Referenced

/-! ### What operations write -/

/-- An edited row refers to what it referred to before, or to a cluster that is listed. -/
theorem Edit.reference? {memory : Memory} {ids ids' : IdSource} {operation : Operation}
    {table : Table} {before after : table.Row}
    (h : Edit memory ids ids' operation table before after) :
    table.reference? after = table.reference? before ∨
      ∃ o c, table.owner? after = some o ∧ table.reference? after = some (.cluster, c) ∧
        memory.hasChild o .cluster c = true := by
  cases h with
  | @assignment o nodeId clusterId before fetched listed =>
    exact Or.inr ⟨o, clusterId, fetched.owner, rfl, listed⟩
  | _ => exact Or.inl rfl

/-- A row that is registered refers to nothing. -/
theorem Draft.reference? {ids ids' : IdSource} {operation : Operation} {kind : ChildKind}
    {row : kind.Row} (h : Draft ids ids' operation kind row) : kind.table.reference? row = none := by
  cases h <;> rfl

namespace Referenced

variable {world world' : World Memory} {operation : Operation} {o : String}

/-- An edit of a row. -/
theorem edit (h : Referenced world.ids world.store) {table : Table} {before after : table.Row}
    (hedit : Edit world.store world.ids world'.ids operation table before after) :
    Referenced world.ids (world.store.put table after) := by
  have hpresent := hedit.present h.keyed
  have howner : world.store.ownerAt table (table.key after) = some (table.owner? after) := by
    rw [Memory.ownerAt_of_row? hpresent, hedit.owner]
  refine h.put ?plain ?same ?listed ?reference
  case plain =>
    intro o ho
    exact h.plain table _ o (ho ▸ howner)
  case same =>
    intro _ owner hbefore
    exact Option.some.inj (howner.symm.trans hbefore)
  case listed =>
    rintro rfl o ho hlisted
    exact h.descriptors o _ _ ho hlisted howner
  case reference =>
    intro kind c href
    rcases hedit.reference? with hsame | ⟨o, cluster, hafter, hassigned, hlisted⟩
    · rw [hsame] at href
      rw [hedit.owner]
      exact h.resolved table _ before kind c hpresent href
    -- the cluster was listed for the owner of the node
    · rw [hassigned] at href
      cases href
      rw [hafter]
      exact h.clusters o _ (h.plain table _ o (hafter ▸ howner)) hlisted

/-- A new row, which is not listed yet. -/
theorem put_new (h : Referenced world.ids world.store) (hext : world.ids.Extends world'.ids)
    (hinjective : Function.Injective world'.ids.name) {kind : ChildKind} {row : kind.Row}
    (hnew : NewRow world world' kind o row)
    (hdraft : Draft world.ids world'.ids operation kind row) :
    Referenced world'.ids (world.store.put kind.table row) := by
  have hfree := Memory.ownerAt_eq_none.mpr hnew.absent
  refine (h.later hext).put ?plain ?same ?listed ?reference
  case plain =>
    intro o' ho'
    rw [hnew.owner] at ho'
    exact Option.some.inj ho' ▸ hnew.plain
  case same =>
    intro _ owner howner
    rw [hfree] at howner
    cases howner
  case listed =>
    intro htable o' ho' hlisted
    obtain rfl : kind = .descriptor := ChildKind.table_inj htable
    -- an id that was listed before was drawn before
    have hissued := hnew.key
    rw [if_neg (by decide)] at hissued
    exact absurd (h.drawn o' _ ho' hlisted) (hissued.not_drawn hext hinjective)
  case reference =>
    intro kind' c href
    rw [hdraft.reference?] at href
    cases href

/-- A new row and its entry. -/
theorem register (h : Referenced world.ids world.store) (hext : world.ids.Extends world'.ids)
    (hinjective : Function.Injective world'.ids.name) {kind : ChildKind} {row : kind.Row}
    (hnew : NewRow world world' kind o row)
    (hdraft : Draft world.ids world'.ids operation kind row) :
    Referenced world'.ids
      ((world.store.put kind.table row).enter o kind (kind.table.key row)) := by
  have howner : (world.store.put kind.table row).ownerAt kind.table (kind.table.key row) =
      some (some o) := by
    rw [Memory.ownerAt_put, if_pos ⟨rfl, rfl⟩, hnew.owner]
  refine (h.put_new hext hinjective hnew hdraft).enter hnew.plain ?cluster ?descriptor
  case cluster =>
    rintro rfl
    exact howner
  case descriptor =>
    rintro rfl
    have hissued := hnew.key
    rw [if_neg (by decide)] at hissued
    refine ⟨hissued.drawn, fun owner hrow => ?_⟩
    exact Option.some.inj (hrow.symm.trans howner)

/-- Whatever remains of a new instance refers to a descriptor that is there. -/
theorem remains (h : Referenced world.ids world.store) (hext : world.ids.Extends world'.ids)
    {app : Instance} {snapshot : Snapshot} {parameters : Option InstanceParameters}
    (hnew : NewInstanceRows world world' o app snapshot parameters) (row entry copy : Bool) :
    Referenced world'.ids (world.store.remains app snapshot row entry copy) := by
  obtain ⟨descriptor, -, hdescriptor, howner, -⟩ := hnew.descriptor
  have hplain : ∀ owner, some app.organizationId = some owner → Plain owner := by
    rintro _ ⟨⟩
    exact hnew.owner ▸ hnew.plain
  refine Memory.remains_induction (h.later hext) ?put_app ?enter ?put_copy row entry copy
  case put_app =>
    refine fun h => h.put hplain (by simp) nofun ?_
    rintro _ _ ⟨⟩
    rw [Memory.ownerAt_of_row? hdescriptor]
    exact congrArg (fun owner => some (some owner)) (howner.trans hnew.owner.symm)
  case enter =>
    intro memory h
    exact h.enter (hplain _ rfl) nofun nofun
  case put_copy =>
    intro memory h
    refine h.put_aside (by simp) ?_
    rintro _ ⟨⟩
    exact hnew.snapshot_owner ▸ hnew.plain

end Referenced

/-- **Every operation keeps what rows refer to**, whatever is stopped, if ids do not repeat. -/
theorem Effect.referenced {world world' : World Memory} {trace : List Attempt}
    {operation : Operation} {succeeded : Bool}
    (heffect : Effect world world' trace operation succeeded)
    (hext : world.ids.Extends world'.ids) (hinjective : Function.Injective world'.ids.name)
    (hremoves : ∀ kind o c, operation = .remove kind o c → kind.Referable →
      world'.store = world.store ∨ Plain o)
    (h : Referenced world.ids world.store) : Referenced world'.ids world'.store := by
  have hlater := h.later hext
  by_cases hsame : world'.store = world.store
  · exact hsame ▸ hlater
  -- something was removed, and so under a plain id
  have hplain : ∀ kind o c, operation = .remove kind o c → kind.Referable → Plain o :=
    fun kind o c heq hkind => (hremoves kind o c heq hkind).resolve_left hsame
  cases heffect with
  | unchanged store => exact absurd store hsame
  | founded organization _ _ store => exact store ▸ hlater.put_aside (by simp) nofun
  | edited before after _ _ _ store edit => exact store ▸ (h.edit edit).later hext
  | registered row _ new _ store draft => exact store ▸ h.register hext hinjective new draft
  | stored row _ new _ store draft => exact store ▸ h.put_new hext hinjective new draft
  | @removed kind o c row _ listed _ unused store =>
    exact store ▸ hlater.remove (hplain kind o c rfl) listed unused
  | @removedInstance o c app copy given _ _ _ store =>
    rw [store]
    have hdropped : Referenced world'.ids (world.store.drop .instances c) :=
      hlater.drop_aside c (by simp)
    have hgone := hdropped.leave o .appInstance c
    exact Memory.removed_induction hgone (fun h => h.drop_aside c (by simp))
      (fun _ h => h.drop_aside c (by simp)) copy given
  | @dropped kind o c row others listed _ unused _ store =>
    have hunreferred := hlater.unreferred (hplain kind o c rfl) listed unused
    exact store ▸ hlater.drop_child hunreferred fun hkind => absurd hkind others
  | unlisted _ _ _ store => exact store ▸ hlater.leave _ _ _
  | launched app snapshot parameters new _ _ _ _ store =>
    rw [store]
    have hremains := h.remains hext new true true true
    cases parameters with
    | none => exact hremains
    | some given =>
      refine hremains.put_aside (by simp) ?_
      rintro _ ⟨⟩
      exact new.parameters_owner given rfl ▸ new.plain
  | remaining app snapshot _ new row entry copy _ _ _ _ _ store =>
    exact store ▸ h.remains hext new row entry copy

/-! ### Runs -/

/-- **What rows refer to is there after every run**, whatever was stopped. -/
theorem Runs.referenced {start world : World Store} {events : List Event}
    (hfresh : start.store.Fresh) (hinjective : Function.Injective start.ids.name)
    (h : Runs start events world) :
    world.store.Faithful ∧ Referenced world.ids world.store.contents := by
  induction h with
  | start =>
    rw [hfresh.contents_eq]
    exact ⟨hfresh.faithful, .empty _⟩
  | @step events world world' operation time trace result before ends ih =>
    obtain ⟨hfaithful, hreferenced⟩ := ih
    obtain ⟨heffect, hafter⟩ := Operation.effect_contents ends hfaithful hreferenced.keyed
    have hinjective : Function.Injective world'.ids.name :=
      (before.step ends).extends.name ▸ hinjective
    refine ⟨hafter, heffect.referenced (Program.Ends.extends ends).1 hinjective ?_ hreferenced⟩
    -- what can be referred to is removed under a plain id, or not at all
    rintro kind o c rfl hkind
    obtain ⟨hends, -⟩ := Program.ends_contents ends hfaithful
    refine (Operation.plain_of_remove (hkind.imp_right Or.inl) hends).imp ?_ And.left
    exact congrArg World.store

/-- **Every node that is assigned has its cluster, and every instance its descriptor, stored under
the same organization**, after operations of which any calls were stopped, from an empty registry
and with ids that do not repeat. -/
theorem references_resolve {start world : World Store} {events : List Event}
    (hfresh : start.store.Fresh) (hinjective : Function.Injective start.ids.name)
    (h : Runs start events world) :
    ∃ nodes apps, world.store.rows .nodes = .ok nodes ∧ world.store.rows .instances = .ok apps ∧
      (∀ node ∈ nodes, ∀ c, node.clusterId = some c →
        ∃ cluster : Cluster, (world.store.perform (.get .clusters c)).1 = .ok cluster ∧
          cluster.clusterId = c ∧ cluster.organizationId = node.organizationId) ∧
      ∀ app ∈ apps,
        ∃ descriptor : Descriptor,
          (world.store.perform (.get .descriptors app.descriptorId)).1 = .ok descriptor ∧
            descriptor.descriptorId = app.descriptorId ∧
            descriptor.organizationId = app.organizationId := by
  obtain ⟨hfaithful, hreferenced⟩ := h.referenced hfresh hinjective
  -- storage of either sort answers as its contents do
  have hanswer : ∀ call, (world.store.perform call).1 = (world.store.contents.perform call).1 :=
    fun call => (hfaithful.perform call).1
  -- and a row that something refers to is fetched, under its own key
  have hfetched : ∀ (table : Table) (row : table.Row) kind c o,
      row ∈ (world.store.contents.rows table).values → table.reference? row = some (kind, c) →
      table.owner? row = some o →
      ∃ target : kind.Row, (world.store.perform (.get kind.table c)).1 = .ok target ∧
        kind.table.key target = c ∧ kind.table.owner? target = some o := by
    intro table row kind c o hmem hreference howner
    obtain ⟨key, hrow⟩ := OrderedMap.mem_values_iff.mp hmem
    have hthere := hreferenced.resolved table key row kind c hrow hreference
    obtain ⟨target, htarget, hsame⟩ := Memory.ownerAt_eq_some.mp hthere
    refine ⟨target, ?_, hreferenced.keyed _ _ _ htarget, hsame.trans howner⟩
    rw [hanswer, Memory.perform_get, htarget]
    rfl
  refine ⟨_, _, hanswer (.list .nodes), hanswer (.list .instances), ?_, ?_⟩
  · intro node hmem c hcluster
    have hreference : Table.reference? .nodes node = some (.cluster, c) := by
      rw [Table.reference?, hcluster]
      rfl
    obtain ⟨cluster, hget, hkey, howner⟩ := hfetched .nodes node _ _ _ hmem hreference rfl
    exact ⟨cluster, hget, hkey, Option.some.inj howner⟩
  · intro app hmem
    obtain ⟨descriptor, hget, hkey, howner⟩ := hfetched .instances app _ _ _ hmem rfl rfl
    exact ⟨descriptor, hget, hkey, Option.some.inj howner⟩

/-- A node is assigned, and an instance is made whose entry is stopped and cannot be undone; then
the cluster and the descriptor are to be removed. -/
theorem references_resolve_of_refused_removals :
    let start : World Store := { store := .memory .empty, ids := .sequential "id", clock := 0 }
    let service : Service := { (default : Service) with name := "api", image := "api:1" }
    let group : ServiceGroup :=
      { (default : ServiceGroup) with name := "web", services := [service] }
    let down : Option StoreError := some (.write "down")
    let steps : List (Operation × Int64 × List (Option StoreError)) :=
      [(.addOrganization { (default : NewOrganization) with name := "acme" }, 1, []),
        (.addCluster { (default : NewCluster) with
          organizationId := "id-1", name := "edge", hostname := "edge.acme" }, 2, []),
        (.addNode { (default : NewNode) with organizationId := "id-1", ip := "10.0.0.1" }, 3, []),
        (.assignNode "id-1" "id-3" "id-2", 4, []),
        (.addDescriptor { (default : NewDescriptor) with
          organizationId := "id-1", name := "shop", groups := [group] }, 5, []),
        (.addInstance { (default : NewInstance) with
          organizationId := "id-1", descriptorId := "id-4", name := "shop" }, 6,
          [none, none, none, none, none, down, down]),
        (.remove .cluster "id-1" "id-2", 7, []),
        (.remove .descriptor "id-1" "id-4", 8, [])]
    let world := start.afterStopping steps
    ∃ events nodes apps, Runs start events world ∧
      world.store.rows .nodes = .ok nodes ∧ world.store.rows .instances = .ok apps ∧
      (∃ node ∈ nodes, node.clusterId = some "id-2") ∧
      (∃ app ∈ apps, app.descriptorId = "id-4" ∧
        world.store.contents.hasChild "id-1" .appInstance app.instanceId = false) ∧
      (∀ node ∈ nodes, ∀ c, node.clusterId = some c →
        ∃ cluster : Cluster, (world.store.perform (.get .clusters c)).1 = .ok cluster ∧
          cluster.clusterId = c ∧ cluster.organizationId = node.organizationId) ∧
      ∀ app ∈ apps,
        ∃ descriptor : Descriptor,
          (world.store.perform (.get .descriptors app.descriptorId)).1 = .ok descriptor ∧
            descriptor.descriptorId = app.descriptorId ∧
            descriptor.organizationId = app.organizationId := by
  intro start service group down steps world
  have hstart : Runs start [] start := .start
  obtain ⟨events, hruns⟩ := hstart.afterStopping steps
  obtain ⟨nodes, apps, hnodes, happs, hresolve⟩ :=
    references_resolve (Or.inl rfl) (IdSource.sequential_injective "id") hruns
  have hassigned : ∃ node ∈ (world.store.rows .nodes).toOption.getD [],
      node.clusterId = some "id-2" := by
    decide +kernel
  have hmade : ∃ app ∈ (world.store.rows .instances).toOption.getD [], app.descriptorId = "id-4" ∧
      world.store.contents.hasChild "id-1" .appInstance app.instanceId = false := by
    decide +kernel
  rw [hnodes] at hassigned
  rw [happs] at hmade
  exact ⟨events, nodes, apps, hruns, hnodes, happs, hassigned, hmade, hresolve⟩

end TenantRegistry
