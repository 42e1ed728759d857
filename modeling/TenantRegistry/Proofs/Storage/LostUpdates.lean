/-
TenantRegistry/Proofs/Storage/LostUpdates.lean

No update is lost.

Clients of one table add rows, fetch them, remove them, and write changed rows
over those that they fetched.  Between a client's fetch and its write, others
may have done anything.  Yet a write goes through only if what it was made
from is what is stored, because it names a revision, and revisions count the
writes since the row was added.

`History` is any sequence of such calls, whoever makes them; the latest call
comes first.  What makes the law hold of all histories is `Tracked`: a row
that was fetched has the revision of some earlier count, and if that count is
today's, it is today's row.  A revision has 64 bits, and so all this is for
fewer than `2 ^ 64` writes over one row.

Main result: `no_lost_update`.
-/
import TenantRegistry.Proofs.Storage.Contents

namespace TenantRegistry

/-! ### Histories -/

/-- A call, and what it was answered. -/
structure Answered where
  call : Call
  answer : Except StoreError call.Answer

namespace Answered

/-- A row was added under a key. -/
def adds (table : Table) (key : String) : Answered → Bool
  | ⟨.add other row, .ok _⟩ => other = table ∧ other.key row = key
  | _ => false

/-- The row under a key was replaced. -/
def replaces (table : Table) (key : String) : Answered → Bool
  | ⟨.replace other row _, .ok _⟩ => other = table ∧ other.key row = key
  | _ => false

end Answered

/-- How often the row under a key was replaced since it was added. -/
def replacements (table : Table) (key : String) : List Answered → Nat
  | [] => 0
  | event :: earlier =>
    if event.adds table key then 0
    else if event.replaces table key then replacements table key earlier + 1
    else replacements table key earlier

variable {table : Table} {start store : Store} {memory : Memory} {earlier : List Answered}

/-- The key was given to a row that a client wanted to add. -/
def Used (table : Table) (key : String) (earlier : List Answered) : Prop :=
  ∃ row answer, (⟨.add table row, answer⟩ : Answered) ∈ earlier ∧ table.key row = key

/-- What clients of a table may call, after what they called earlier. -/
inductive Allowed (table : Table) (earlier : List Answered) : Call → Prop
  /-- Rows begin at revision zero, and keys are for one row each. -/
  | add {row : table.Row} (unused : ¬ Used table (table.key row) earlier)
      (revision : table.revision row = 0) : Allowed table earlier (.add table row)
  | get {key : String} : Allowed table earlier (.get table key)
  | remove {key : String} : Allowed table earlier (.remove table key)
  /-- A row that was fetched is changed, but not its key. -/
  | replace {key : String} {fetched changed : table.Row}
      (fetch : (⟨.get table key, .ok fetched⟩ : Answered) ∈ earlier)
      (same : table.key changed = table.key fetched) :
      Allowed table earlier (.replace table changed (table.revision fetched))

/-- `History table start events store`: after the events, the latest first, `start` is `store`. -/
inductive History (table : Table) (start : Store) : List Answered → Store → Prop
  | start : History table start [] start
  | step {earlier : List Answered} {store : Store} {call : Call}
      (history : History table start earlier store) (allowed : Allowed table earlier call) :
      History table start (⟨call, (store.perform call).1⟩ :: earlier) (store.perform call).2

/-! ### What is known of rows -/

/-- What is known of the rows of a table after a history. -/
structure Tracked (table : Table) (earlier : List Answered) (memory : Memory) : Prop where
  keyed : ∀ key row, memory.row? table key = some row → table.key row = key
  used : ∀ key row, memory.row? table key = some row → Used table key earlier
  counted : ∀ key row, memory.row? table key = some row →
    table.revision row = UInt64.ofNat (replacements table key earlier)
  /-- A row was fetched at some count; if it is the count of now, nothing has changed since. -/
  fetched : ∀ key fetched, (⟨.get table key, .ok fetched⟩ : Answered) ∈ earlier →
    table.key fetched = key ∧ Used table key earlier ∧
      ∀ row, memory.row? table key = some row → ∃ count ≤ replacements table key earlier,
        table.revision fetched = UInt64.ofNat count ∧
          (count = replacements table key earlier → row = fetched)

theorem Used.later {key : String} (h : Used table key earlier) (event : Answered) :
    Used table key (event :: earlier) := by
  obtain ⟨row, answer, hmem, hkey⟩ := h
  exact ⟨row, answer, List.mem_cons_of_mem _ hmem, hkey⟩

/-- A revision that was set is read back, in a table that counts. -/
theorem Table.revision_withRevision (htable : table = .clusters ∨ table = .instances)
    (row : table.Row) (revision : UInt64) :
    table.revision (table.withRevision row revision) = revision := by
  rcases htable with rfl | rfl <;> rfl

namespace Tracked

/-! ### One call -/

/-- Nothing was added, replaced or fetched, and there may be fewer rows. -/
theorem fewer (h : Tracked table earlier memory) {after : Memory} {event : Answered}
    (hrows : ∀ key row, after.row? table key = some row → memory.row? table key = some row)
    (hadds : ∀ key, event.adds table key = false)
    (hreplaces : ∀ key, event.replaces table key = false)
    (hfetches : ∀ key fetched, event ≠ ⟨.get table key, .ok fetched⟩) :
    Tracked table (event :: earlier) after := by
  have hcount : ∀ key,
      replacements table key (event :: earlier) = replacements table key earlier := by
    intro key
    rw [replacements, hadds, hreplaces]
    rfl
  refine
    { keyed := fun key row hrow => h.keyed key row (hrows key row hrow)
      used := fun key row hrow => (h.used key row (hrows key row hrow)).later event
      counted := ?counted
      fetched := ?fetched }
  case counted =>
    intro key row hrow
    rw [hcount]
    exact h.counted key row (hrows key row hrow)
  case fetched =>
    intro key fetched hmem
    rcases List.mem_cons.mp hmem with heq | hmem
    · exact absurd heq.symm (hfetches key fetched)
    · obtain ⟨hkey, hused, hread⟩ := h.fetched key fetched hmem
      refine ⟨hkey, hused.later event, fun row hrow => ?_⟩
      rw [hcount]
      exact hread row (hrows key row hrow)

theorem get (h : Tracked table earlier memory) (key : String) :
    Tracked table (⟨.get table key, (memory.perform (.get table key)).1⟩ :: earlier) memory := by
  rw [Memory.perform_get]
  rcases e : memory.row? table key with - | row
  · exact h.fewer (fun _ _ => id) (fun _ => rfl) (fun _ => rfl) nofun
  refine
    { keyed := h.keyed
      used := fun key row hrow => (h.used key row hrow).later _
      counted := h.counted
      fetched := fun key' fetched hmem => ?_ }
  rcases List.mem_cons.mp hmem with heq | hmem
  · -- what is fetched is the row of now
    cases heq
    refine ⟨h.keyed _ _ e, (h.used _ _ e).later _, fun row hrow => ?_⟩
    refine ⟨_, le_refl _, h.counted _ _ e, fun _ => ?_⟩
    exact Option.some.inj (hrow.symm.trans e)
  · obtain ⟨hkey, hused, hread⟩ := h.fetched key' fetched hmem
    exact ⟨hkey, hused.later _, hread⟩

/-- A row was put under its key. -/
theorem written (h : Tracked table earlier memory) {event : Answered} {row : table.Row}
    (hfetches : ∀ key fetched, event ≠ ⟨.get table key, .ok fetched⟩)
    (hothers : ∀ key, key ≠ table.key row →
      replacements table key (event :: earlier) = replacements table key earlier)
    (hused : Used table (table.key row) (event :: earlier))
    (hcounted : table.revision row =
      UInt64.ofNat (replacements table (table.key row) (event :: earlier)))
    (hread : ∀ fetched, (⟨.get table (table.key row), .ok fetched⟩ : Answered) ∈ earlier →
      ∃ count < replacements table (table.key row) (event :: earlier),
        table.revision fetched = UInt64.ofNat count) :
    Tracked table (event :: earlier) (memory.put table row) := by
  refine
    { keyed := ?keyed
      used := ?used
      counted := ?counted
      fetched := ?fetched }
  case keyed =>
    intro key found hfound
    rw [Memory.row?_put_self] at hfound
    split at hfound
    · next hkey =>
      cases hfound
      exact hkey.symm
    · exact h.keyed key found hfound
  case used =>
    intro key found hfound
    rw [Memory.row?_put_self] at hfound
    split at hfound
    · next hkey => exact hkey ▸ hused
    · exact (h.used key found hfound).later event
  case counted =>
    intro key found hfound
    rw [Memory.row?_put_self] at hfound
    split at hfound
    · next hkey =>
      cases hfound
      exact hkey ▸ hcounted
    · next hkey => rw [hothers key hkey, h.counted key found hfound]
  case fetched =>
    intro key fetched hmem
    rcases List.mem_cons.mp hmem with heq | hmem
    · exact absurd heq.symm (hfetches key fetched)
    obtain ⟨hkey, hearlier, hcounts⟩ := h.fetched key fetched hmem
    refine ⟨hkey, hearlier.later event, fun found hfound => ?_⟩
    rw [Memory.row?_put_self] at hfound
    split at hfound
    · next hwritten =>
      subst hwritten
      obtain ⟨count, hlt, hrevision⟩ := hread fetched hmem
      exact ⟨count, hlt.le, hrevision, fun heq => absurd heq hlt.ne⟩
    · next hother =>
      rw [hothers key hother]
      exact hcounts found hfound

theorem add (h : Tracked table earlier memory) {row : table.Row}
    (hunused : ¬ Used table (table.key row) earlier) (hrevision : table.revision row = 0) :
    Tracked table (⟨.add table row, (memory.perform (.add table row)).1⟩ :: earlier)
      (memory.perform (.add table row)).2 := by
  -- what is stored was added, and this key was never used
  have habsent : memory.row? table (table.key row) = none :=
    Option.eq_none_iff_forall_ne_some.mpr fun found hfound => hunused (h.used _ found hfound)
  rw [Memory.perform_add, habsent]
  refine h.written nofun (fun key hkey => ?_) ⟨row, _, List.mem_cons_self, rfl⟩ ?_
    fun fetched hmem => absurd (h.fetched _ fetched hmem).2.1 hunused
  · simp [replacements, Answered.adds, Answered.replaces, hkey.symm]
  · simp [replacements, Answered.adds, hrevision]

theorem remove (h : Tracked table earlier memory) (key : String) :
    Tracked table (⟨.remove table key, (memory.perform (.remove table key)).1⟩ :: earlier)
      (memory.perform (.remove table key)).2 := by
  rw [Memory.perform_remove]
  split
  · refine h.fewer (fun other row hrow => ?_) (fun _ => rfl) (fun _ => rfl) nofun
    rw [Memory.row?_drop_self] at hrow
    split at hrow
    · cases hrow
    · exact hrow
  · exact h.fewer (fun _ _ => id) (fun _ => rfl) (fun _ => rfl) nofun

/-- **A row that was fetched and has the revision of now is the row of now**, as long as
revisions did not come round. -/
theorem eq_of_revision (h : Tracked table earlier memory) {key : String}
    {fetched row : table.Row} (hfetch : (⟨.get table key, .ok fetched⟩ : Answered) ∈ earlier)
    (hrow : memory.row? table key = some row) (hsame : table.revision row = table.revision fetched)
    (hfits : replacements table key earlier < 2 ^ 64) : row = fetched := by
  obtain ⟨-, -, hcounts⟩ := h.fetched key fetched hfetch
  obtain ⟨count, hle, hrevision, heq⟩ := hcounts row hrow
  -- both counts are below the bound, and so revisions tell them apart
  rw [h.counted key row hrow, hrevision, ← UInt64.toNat_inj, UInt64.toNat_ofNat',
    UInt64.toNat_ofNat', Nat.mod_eq_of_lt hfits, Nat.mod_eq_of_lt (hle.trans_lt hfits)] at hsame
  exact heq hsame.symm

theorem replace (h : Tracked table earlier memory)
    (htable : table = .clusters ∨ table = .instances) (changed : table.Row) (expected : UInt64) :
    Tracked table
      (⟨.replace table changed expected, (memory.perform (.replace table changed expected)).1⟩ ::
        earlier)
      (memory.perform (.replace table changed expected)).2 := by
  rw [Memory.perform_replace]
  rcases e : memory.row? table (table.key changed) with - | current
  · exact h.fewer (fun _ _ => id) (fun _ => rfl) (fun _ => rfl) nofun
  dsimp only
  split
  · next hexpected =>
    -- the write counts for the key of the row and for no other
    have hcount : ∀ key, replacements table key
        (⟨.replace table changed expected, .ok (table.withRevision changed (expected + 1))⟩ ::
          earlier) =
        if table.key changed = key then replacements table key earlier + 1
        else replacements table key earlier := by
      intro key
      simp [replacements, Answered.adds, Answered.replaces]
    have hkey := table.key_withRevision changed (expected + 1)
    refine h.written nofun (fun key hother => ?_) ?_ ?_ fun fetched hmem => ?_
    · rw [hcount, if_neg]
      rwa [hkey, ne_comm] at hother
    · rw [hkey]
      exact (h.used _ current e).later _
    · rw [Table.revision_withRevision htable, hkey, hcount, if_pos rfl, ← hexpected,
        h.counted _ current e, UInt64.ofNat_add]
      rfl
    -- whatever was fetched earlier is behind by at least this one write
    · rw [hkey] at hmem
      obtain ⟨-, -, hcounts⟩ := h.fetched (table.key changed) fetched hmem
      obtain ⟨count, hle, hrevision, -⟩ := hcounts current e
      rw [hkey, hcount, if_pos rfl]
      exact ⟨count, Nat.lt_succ_of_le hle, hrevision⟩
  · exact h.fewer (fun _ _ => id) (fun _ => rfl) (fun _ => rfl) nofun

end Tracked

/-! ### Whole histories -/

/-- **What is known of the rows of a table is known after every history** that began without rows. -/
theorem History.tracked (htable : table = .clusters ∨ table = .instances)
    (hfaithful : start.Faithful) (hempty : start.rows table = .ok [])
    (h : History table start earlier store) :
    store.Faithful ∧ Tracked table earlier store.contents := by
  induction h with
  | start =>
    -- nothing is stored, and nothing was fetched
    have hvalues : (start.contents.rows table).values = [] :=
      Except.ok.inj ((hfaithful.perform (.list table)).1.symm.trans hempty)
    have hnone : ∀ key row, start.contents.row? table key ≠ some row := by
      intro key row hrow
      have hmem := OrderedMap.mem_values_iff.mpr ⟨key, hrow⟩
      rw [hvalues] at hmem
      cases hmem
    exact ⟨hfaithful,
      { keyed := fun key row hrow => absurd hrow (hnone key row)
        used := fun key row hrow => absurd hrow (hnone key row)
        counted := fun key row hrow => absurd hrow (hnone key row)
        fetched := fun key fetched hmem => by cases hmem }⟩
  | @step earlier store call history allowed ih =>
    obtain ⟨hfaithful, htracked⟩ := ih
    obtain ⟨hanswer, hcontents, hafter⟩ := hfaithful.perform call
    refine ⟨hafter, ?_⟩
    rw [hanswer, hcontents]
    cases allowed with
    | add unused revision => exact htracked.add unused revision
    | get => exact htracked.get _
    | remove => exact htracked.remove _
    | replace fetch same => exact htracked.replace htable _ _

/-- A replacement that fails leaves storage as it is. -/
theorem Store.perform_replace_of_error {changed : table.Row} {expected : UInt64}
    {error : StoreError}
    (h : (store.perform (.replace table changed expected)).1 = .error error) :
    (store.perform (.replace table changed expected)).2 = store := by
  cases store with
  | memory held =>
    revert h
    show (held.replace table changed expected).1 = _ →
      Store.memory (held.replace table changed expected).2 = _
    rw [Memory.replace]
    dsimp only
    split
    · intro _
      rfl
    · split
      · intro hrefused
        cases hrefused
      · intro _
        rfl
  | durable database =>
    revert h
    show (database.replace table changed expected).1 = _ →
      Store.durable (database.replace table changed expected).2 = _
    rw [Durable.replace]
    dsimp only
    split
    · intro _
      rfl
    · split
      · intro hrefused
        cases hrefused
      · intro _
        rfl

/-- No update of a table is lost in storage, after what clients called earlier. -/
structure NoLostUpdate (table : Table) (earlier : List Answered) (store : Store) : Prop where
  /-- What a replacement replaces is the row that it was made from. -/
  replaced : ∀ key fetched changed stored,
    (⟨.get table key, .ok fetched⟩ : Answered) ∈ earlier →
    table.key changed = table.key fetched → replacements table key earlier < 2 ^ 64 →
    (store.perform (.replace table changed (table.revision fetched))).1 = .ok stored →
    (store.perform (.get table key)).1 = .ok fetched
  /-- A replacement that is refused changes nothing. -/
  refused : ∀ changed expected error,
    (store.perform (.replace table changed expected)).1 = .error error →
    (store.perform (.replace table changed expected)).2 = store
  /-- A revision is the count of replacements since the row was added, in 64 bits. -/
  counted : ∀ key row, (store.perform (.get table key)).1 = .ok row →
    (table.revision row).toNat = replacements table key earlier % 2 ^ 64

/-- **No update is lost** in a table that counts revisions, in storage of either sort, whatever
clients called in whatever order. -/
theorem no_lost_update (htable : table = .clusters ∨ table = .instances)
    (hfaithful : start.Faithful) (hempty : start.rows table = .ok [])
    (h : History table start earlier store) : NoLostUpdate table earlier store := by
  obtain ⟨hstore, htracked⟩ := h.tracked htable hfaithful hempty
  -- storage of either sort answers as its contents do
  have hget : ∀ key, (store.perform (.get table key)).1 =
      (store.contents.row? table key).elim (.error (.notFound (.row table key))) .ok := by
    intro key
    rw [(hstore.perform _).1, Memory.perform_get]
  constructor
  case replaced =>
    intro key fetched changed stored hfetch hsame hfits hok
    obtain ⟨hkey, -, -⟩ := htracked.fetched key fetched hfetch
    rw [(hstore.perform _).1, Memory.perform_replace, hsame, hkey] at hok
    rw [hget]
    rcases e : store.contents.row? table key with - | current
    · rw [e] at hok
      cases hok
    · rw [e] at hok
      dsimp only at hok
      split at hok
      · next hrevision => rw [htracked.eq_of_revision hfetch e hrevision hfits, Option.elim]
      · cases hok
  case refused =>
    intro changed expected error hrefused
    exact Store.perform_replace_of_error hrefused
  case counted =>
    intro key row hrow
    rw [hget] at hrow
    rcases e : store.contents.row? table key with - | found
    · rw [e] at hrow
      cases hrow
    · rw [e] at hrow
      cases hrow
      rw [htracked.counted key _ e, UInt64.toNat_ofNat']

/-- Two clients fetch a cluster and write over it.  The second names a revision that is not the one
of now, and is refused. -/
theorem no_lost_update_of_stale_replacement :
    let row : Cluster := { (default : Cluster) with clusterId := "c" }
    let north : Cluster := { row with name := "north" }
    let south : Cluster := { row with name := "south" }
    let start : Store := .memory .empty
    let added := (start.perform (.add .clusters row)).2
    let replaced := (added.perform (.replace .clusters north 0)).2
    let refused := (replaced.perform (.replace .clusters south 0)).2
    let fetches : List Answered :=
      [⟨.get .clusters "c", .ok row⟩, ⟨.get .clusters "c", .ok row⟩, ⟨.add .clusters row, .ok ()⟩]
    (Table.clusters = .clusters ∨ Table.clusters = .instances) ∧ start.Faithful ∧
      start.rows .clusters = .ok [] ∧
      NoLostUpdate .clusters
        (⟨.replace .clusters south 0, .error (.conflict "c" 0 1)⟩ ::
          ⟨.replace .clusters north 0, .ok { north with revision := 1 }⟩ :: fetches) refused ∧
      (refused.perform (.get .clusters "c")).1 = .ok { north with revision := 1 } := by
  intro row north south start added replaced refused fetches
  -- each call of the history is one that a client may make
  have hadded : History .clusters start [⟨.add .clusters row, .ok ()⟩] added :=
    History.start.step (.add (by rintro ⟨_, _, hmem, -⟩; cases hmem) rfl)
  have hfetched : History .clusters start fetches added := (hadded.step .get).step .get
  have hfresh : Allowed .clusters fetches (.replace .clusters north 0) :=
    .replace List.mem_cons_self rfl
  have hreplaced : History .clusters start
      (⟨.replace .clusters north 0, .ok { north with revision := 1 }⟩ :: fetches) replaced :=
    hfetched.step hfresh
  have hstale : Allowed .clusters
      (⟨.replace .clusters north 0, .ok { north with revision := 1 }⟩ :: fetches)
      (.replace .clusters south 0) :=
    .replace (List.mem_cons_of_mem _ List.mem_cons_self) rfl
  have hhistory := hreplaced.step hstale
  have hrefused : (replaced.perform (.replace .clusters south 0)).1 =
      .error (.conflict "c" 0 1) := by decide +kernel
  rw [hrefused] at hhistory
  have hfaithful : start.Faithful := trivial
  have hempty : start.rows .clusters = .ok [] := rfl
  exact ⟨Or.inl rfl, hfaithful, hempty,
    no_lost_update (Or.inl rfl) hfaithful hempty hhistory, by decide +kernel⟩

end TenantRegistry
