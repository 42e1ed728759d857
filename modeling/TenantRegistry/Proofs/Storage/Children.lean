/-
TenantRegistry/Proofs/Storage/Children.lean

The index is a set of children.

Storage keeps the index as texts: the organization, the kind and the id of a
child in one key, with nothing escaped.  To a client it is a set of triples
(`Child`), as long as organizations have ids without the separator; the ids of
children may be any texts.  Each write to the index is a write to that set, with
the same answer (`IndexWrite.agrees`), and so are all writes of a run
(`IndexWrite.log_agrees`).  What the set then holds is what was entered last,
by a write that was accepted (`mem_log_iff`).

Main result: `index_is_set_of_children`.
-/
import Mathlib.Data.Finset.Erase
import Mathlib.Data.Finset.Insert
import TenantRegistry.Proofs.Storage.Contents
import TenantRegistry.Proofs.Text.Bytes

namespace TenantRegistry

/-! ### Children and writes -/

/-- Something of a kind that an organization lists. -/
structure Child where
  organizationId : String
  kind : ChildKind
  childId : String
  deriving DecidableEq

/-- How a child is named when it is missing, or already there. -/
def Child.subject (child : Child) : Subject :=
  .child child.kind child.childId child.organizationId

/-- A write to the index. -/
inductive IndexWrite where
  | enter (child : Child)
  | leave (child : Child)
  deriving DecidableEq

namespace IndexWrite

/-- The child that a write is about. -/
def child : IndexWrite → Child
  | enter child => child
  | leave child => child

/-- What storage answers to a write, and the storage after it. -/
def toStore : IndexWrite → Store → Except StoreError Unit × Store
  | enter child, store =>
    store.perform (.addChild child.organizationId child.kind child.childId)
  | leave child, store =>
    store.perform (.removeChild child.organizationId child.kind child.childId)

/-- What a set of children answers to a write, and the set after it. -/
def toSet : IndexWrite → Finset Child → Except StoreError Unit × Finset Child
  | enter child, children =>
    if child ∈ children then (.error (.alreadyExists child.subject), children)
    else (.ok (), insert child children)
  | leave child, children =>
    if child ∈ children then (.ok (), children.erase child)
    else (.error (.notFound child.subject), children)

/-- Writes made one after another, each with its answer, and what is left after them. -/
def log {σ : Type} (write : IndexWrite → σ → Except StoreError Unit × σ) :
    List IndexWrite → σ → List (IndexWrite × Except StoreError Unit) × σ
  | [], state => ([], state)
  | first :: rest, state =>
    let (answer, state) := write first state
    let (answers, state) := log write rest state
    ((first, answer) :: answers, state)

end IndexWrite

/-- The last write about a child that was accepted. -/
def lastAccepted (child : Child) (log : List (IndexWrite × Except StoreError Unit)) :
    Option IndexWrite :=
  (log.reverse.find? fun entry => entry.1.child = child && entry.2.isOk).map (·.1)

/-! ### The set that an index is -/

/-- Keys of plain organizations are equal for equal children only. -/
theorem Child.entry_eq_iff {child other : Child} (h : Plain child.organizationId)
    (h' : Plain other.organizationId) :
    IndexKey.entry child.organizationId child.kind child.childId =
      IndexKey.entry other.organizationId other.kind other.childId ↔ child = other := by
  constructor
  · intro hkey
    obtain ⟨horganization, hkind, hid⟩ := IndexKey.entry_inj h h' hkey
    exact (Child.mk.injEq ..).mpr ⟨horganization, hkind, hid⟩
  · rintro rfl
    rfl

/-- The index lists the children of a set, as far as it is about plain organizations. -/
def Memory.Lists (memory : Memory) (children : Finset Child) : Prop :=
  ∀ child : Child, Plain child.organizationId →
    (memory.hasChild child.organizationId child.kind child.childId = true ↔ child ∈ children)

namespace Memory.Lists

variable {memory : Memory} {children : Finset Child} {child : Child}

/-- A child that enters the index enters the set. -/
theorem enter (h : memory.Lists children) (hplain : Plain child.organizationId) :
    (memory.enter child.organizationId child.kind child.childId).Lists
      (insert child children) := by
  intro other hother
  rw [hasChild_enter_iff, Child.entry_eq_iff hother hplain, h other hother, Finset.mem_insert]

/-- A child that leaves the index leaves the set. -/
theorem leave (h : memory.Lists children) (hplain : Plain child.organizationId) :
    (memory.leave child.organizationId child.kind child.childId).Lists
      (children.erase child) := by
  intro other hother
  rw [hasChild_leave_iff, Ne, Child.entry_eq_iff hother hplain, h other hother, Finset.mem_erase]

end Memory.Lists

namespace IndexWrite

variable {store : Store} {children : Finset Child}

/-- **A write to the index is a write to the set that it is**, and leaves organizations alone. -/
theorem agrees (write : IndexWrite) (hfaithful : store.Faithful)
    (hlists : store.contents.Lists children) (hplain : Plain write.child.organizationId)
    (hstored : store.contents.row? .organizations write.child.organizationId ≠ none) :
    (write.toStore store).1 = (write.toSet children).1 ∧
      (write.toStore store).2.Faithful ∧
      (write.toStore store).2.contents.Lists (write.toSet children).2 ∧
      ∀ o, (write.toStore store).2.contents.row? .organizations o =
        store.contents.row? .organizations o := by
  cases write with
  | enter child =>
    obtain ⟨hanswer, hcontents, hfaithful'⟩ :=
      hfaithful.perform (.addChild child.organizationId child.kind child.childId)
    have hthere : ¬ (store.contents.row? .organizations child.organizationId).isNone = true :=
      fun hnone => hstored (Option.isNone_iff_eq_none.mp hnone)
    rw [Memory.perform_addChild, if_neg hthere] at hanswer hcontents
    rw [toStore, toSet, hanswer, hcontents]
    by_cases hmem : child ∈ children
    · rw [if_pos hmem, if_pos ((hlists child hplain).mpr hmem)]
      exact ⟨rfl, hfaithful', hlists, fun _ => rfl⟩
    · rw [if_neg hmem, if_neg (mt (hlists child hplain).mp hmem)]
      exact ⟨rfl, hfaithful', hlists.enter hplain, fun _ => rfl⟩
  | leave child =>
    obtain ⟨hanswer, hcontents, hfaithful'⟩ :=
      hfaithful.perform (.removeChild child.organizationId child.kind child.childId)
    rw [Memory.perform_removeChild] at hanswer hcontents
    rw [toStore, toSet, hanswer, hcontents]
    by_cases hmem : child ∈ children
    · rw [if_pos hmem, if_pos ((hlists child hplain).mpr hmem)]
      exact ⟨rfl, hfaithful', hlists.leave hplain, fun _ => rfl⟩
    · rw [if_neg hmem, if_neg (mt (hlists child hplain).mp hmem)]
      exact ⟨rfl, hfaithful', hlists, fun _ => rfl⟩

/-- **All writes to the index are writes to the set that it is.** -/
theorem log_agrees (writes : List IndexWrite) (hfaithful : store.Faithful)
    (hlists : store.contents.Lists children)
    (hwrites : ∀ write ∈ writes, Plain write.child.organizationId ∧
      store.contents.row? .organizations write.child.organizationId ≠ none) :
    (log toStore writes store).1 = (log toSet writes children).1 ∧
      (log toStore writes store).2.Faithful ∧
      (log toStore writes store).2.contents.Lists (log toSet writes children).2 ∧
      ∀ o, (log toStore writes store).2.contents.row? .organizations o =
        store.contents.row? .organizations o := by
  induction writes generalizing store children with
  | nil => exact ⟨rfl, hfaithful, hlists, fun _ => rfl⟩
  | cons write rest ih =>
    obtain ⟨⟨hplain, hstored⟩, hrest⟩ := List.forall_mem_cons.mp hwrites
    obtain ⟨hanswer, hfaithful', hlists', hrows⟩ := write.agrees hfaithful hlists hplain hstored
    -- the organizations of the other writes are still there
    have hlater : ∀ later ∈ rest, Plain later.child.organizationId ∧
        (write.toStore store).2.contents.row? .organizations later.child.organizationId ≠ none :=
      fun later hmem => ⟨(hrest later hmem).1, (hrows _).symm ▸ (hrest later hmem).2⟩
    obtain ⟨hanswers, hfaithful'', hlists'', hrows'⟩ := ih hfaithful' hlists' hlater
    refine ⟨?_, hfaithful'', hlists'', fun o => (hrows' o).trans (hrows o)⟩
    rw [log, log]
    dsimp only
    rw [hanswer, hanswers]

/-! ### What was entered last -/

variable {child : Child}

/-- What a write does to the membership of a child. -/
theorem mem_toSet_iff (write : IndexWrite) :
    child ∈ (write.toSet children).2 ↔
      if write.child = child ∧ (write.toSet children).1.isOk then write = .enter child
      else child ∈ children := by
  have hok : (Except.ok () : Except StoreError Unit).isOk = true := rfl
  have herror : ∀ error, (Except.error error : Except StoreError Unit).isOk = false := fun _ => rfl
  cases write with
  | enter entered =>
    rw [toSet, IndexWrite.child]
    split
    · simp [herror]
    · by_cases hsame : entered = child
      · simp [hok, hsame]
      · simp [hsame, Ne.symm hsame]
  | leave left =>
    rw [toSet, IndexWrite.child]
    split
    · by_cases hsame : left = child
      · simp [hok, hsame]
      · simp [hsame, Ne.symm hsame]
    · simp [herror]

/-- **A child is in the set if the last write about it that was accepted entered it.** -/
theorem mem_log_iff (writes : List IndexWrite) :
    child ∈ (log toSet writes children).2 ↔
      (lastAccepted child (log toSet writes children).1).elim (child ∈ children)
        (· = .enter child) := by
  induction writes generalizing children with
  | nil => rfl
  | cons write rest ih =>
    rw [log]
    dsimp only
    rw [ih, lastAccepted, lastAccepted, List.reverse_cons, List.find?_append, List.find?_singleton]
    cases (log toSet rest (write.toSet children).2).1.reverse.find? _ with
    | some entry => rfl
    | none =>
      rw [Option.none_or, Option.map_none, Option.elim_none, mem_toSet_iff]
      simp only [Bool.and_eq_true, decide_eq_true_eq]
      split <;> rfl

end IndexWrite

/-- **The index is a set of children.**  From an empty index on, writes for plain organizations that
are stored are answered as by a set; a child is listed if the last write about it that was accepted
entered it, and the ids of the children of a kind are listed once, in the order of their bytes. -/
theorem index_is_set_of_children {start : Store} (hfaithful : start.Faithful)
    (hempty : ∀ child : Child, (start.perform
      (.hasChild child.organizationId child.kind child.childId)).1 = .ok false)
    {writes : List IndexWrite}
    (hwrites : ∀ write ∈ writes, Plain write.child.organizationId ∧
      (start.perform (.contains .organizations write.child.organizationId)).1 = .ok true) :
    let held := IndexWrite.log IndexWrite.toStore writes start
    let model := IndexWrite.log IndexWrite.toSet writes ∅
    held.1 = model.1 ∧
      (∀ child, child ∈ model.2 ↔ lastAccepted child held.1 = some (.enter child)) ∧
      (∀ child : Child, Plain child.organizationId →
        (held.2.perform (.hasChild child.organizationId child.kind child.childId)).1 =
          .ok (decide (child ∈ model.2))) ∧
      ∀ o kind, Plain o → (start.perform (.contains .organizations o)).1 = .ok true →
        ∃ ids : List String, (held.2.perform (.listChildren o kind)).1 = .ok ids ∧
          ids.Nodup ∧
          ids.Pairwise (fun c c' => c.toUTF8.data.toList < c'.toUTF8.data.toList) ∧
          ∀ c, c ∈ ids ↔ ⟨o, kind, c⟩ ∈ model.2 := by
  intro held model
  have hstored : ∀ o, (start.perform (.contains .organizations o)).1 = .ok true →
      start.contents.row? .organizations o ≠ none := by
    intro o hcontains
    exact Option.isSome_iff_ne_none.mp (hfaithful.contains_eq_ok.mp hcontains)
  have hlists : start.contents.Lists ∅ := by
    intro child _
    rw [hfaithful.hasChild_eq_ok.mp (hempty child)]
    exact iff_of_false nofun (Finset.notMem_empty child)
  obtain ⟨hanswers, hheld, hset, hrows⟩ := IndexWrite.log_agrees writes hfaithful hlists
    fun write hmem => ⟨(hwrites write hmem).1, hstored _ (hwrites write hmem).2⟩
  refine ⟨hanswers, fun child => ?_, fun child hplain => ?_, fun o kind hplain ho => ?_⟩
  · show child ∈ model.2 ↔ lastAccepted child held.1 = some (.enter child)
    rw [show held.1 = model.1 from hanswers, IndexWrite.mem_log_iff]
    cases lastAccepted child model.1 with
    | none => exact iff_of_false (Finset.notMem_empty child) nofun
    | some write => exact (Option.some.injEq write _).to_iff.symm
  · rw [hheld.hasChild_eq_ok, Bool.eq_iff_iff, decide_eq_true_iff]
    exact hset child hplain
  · have hthere : held.2.contents.hasOrganization o = true := by
      show (held.2.contents.row? .organizations o).isSome = true
      rw [hrows]
      exact Option.isSome_iff_ne_none.mpr (hstored o ho)
    have hlisting : (held.2.perform (.listChildren o kind)).1 =
        .ok (held.2.contents.listedIds o kind) := by
      rw [(hheld.perform (.listChildren o kind)).1]
      show held.2.contents.listChildren o kind = _
      rw [Memory.listChildren_eq, if_pos hthere]
    have hascending := held.2.contents.pairwise_listedIds o kind
    have hnodup : (held.2.contents.listedIds o kind).Nodup := hascending.imp String.ne_of_lt
    refine ⟨_, hlisting, hnodup, hascending.imp toUTF8_lt, fun c => ?_⟩
    rw [Memory.mem_listedIds_iff]
    exact hset ⟨o, kind, c⟩ hplain

/-- Of two organizations the id of one extends that of the other, and the ids of children are empty,
or hold what separates the parts of a key. -/
theorem index_is_set_of_children_of_extended_organization :
    let organization : String → Organization := fun organizationId =>
      { (default : Organization) with organizationId }
    let start : Store := [organization "acme", organization "acme2"].foldl
      (fun store row => (store.perform (.add .organizations row)).2) (.durable .empty)
    let writes : List IndexWrite :=
      [.enter ⟨"acme", .cluster, ""⟩, .enter ⟨"acme", .cluster, "x/y"⟩,
        .enter ⟨"acme2", .cluster, "z"⟩, .enter ⟨"acme", .cluster, ""⟩,
        .leave ⟨"acme", .cluster, "x/y"⟩, .leave ⟨"acme", .cluster, "x/y"⟩,
        .enter ⟨"acme", .node, "x/y"⟩]
    let held := IndexWrite.log IndexWrite.toStore writes start
    held.1.map (fun entry => entry.2.isOk) = [true, true, true, false, true, false, true] ∧
      (held.2.perform (.hasChild "acme" .node "x/y")).1 = .ok true ∧
      ∃ ids : List String, (held.2.perform (.listChildren "acme" .cluster)).1 = .ok ids ∧
        ids.Nodup ∧ "" ∈ ids ∧ "x/y" ∉ ids ∧ "z" ∉ ids := by
  intro organization start writes held
  have hfaithful : start.Faithful := by
    have hempty : (Store.durable .empty).Faithful := Durable.faithful_empty
    exact ((hempty.perform _).2.2.perform _).2.2
  have hempty : ∀ child : Child, (start.perform
      (.hasChild child.organizationId child.kind child.childId)).1 = .ok false := fun _ => rfl
  have hwrites : ∀ write ∈ writes, Plain write.child.organizationId ∧
      (start.perform (.contains .organizations write.child.organizationId)).1 = .ok true := by
    decide +kernel
  obtain ⟨hanswers, -, hlisted, hlisting⟩ :=
    index_is_set_of_children hfaithful hempty hwrites
  obtain ⟨ids, hids, hnodup, -, hmem⟩ := hlisting "acme" .cluster (by decide) (by decide +kernel)
  refine ⟨?_, (hlisted ⟨"acme", .node, "x/y"⟩ (by decide)).trans ?_, ids, hids, hnodup, ?_, ?_, ?_⟩
  · rw [show held.1 = _ from hanswers]
    decide +kernel
  · decide +kernel
  · exact (hmem "").mpr (by decide +kernel)
  · exact mt (hmem "x/y").mp (by decide +kernel)
  · exact mt (hmem "z").mp (by decide +kernel)

end TenantRegistry
