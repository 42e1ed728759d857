/-
TenantRegistry/Proofs/Listing.lean

Listing is fetching one by one.

An organization reaches its rows in two ways.  It fetches one by its id, which is
looked up in the index first, or it lists all of a kind, by a scan of the index.
The two agree on whatever is stored, also where the index and the tables do not
agree with each other: on an entry without a row, a row without an entry, and an
entry for a row of another organization.

A listing is put together from what is fetched under each id
(`runWith_getAll_eq_listing`).  It leaves out an id under which there is nothing,
and fails with the first row of another owner.  Nothing is assumed about storage,
but that what it holds are rows under their own keys; a database may keep them in
any text that says them (`Store.Readable`).

Main result: `listing_agrees_with_fetching`.
-/
import TenantRegistry.Proofs.Consistency
import TenantRegistry.Proofs.Outcomes

namespace TenantRegistry

open Procedure

/-! ### Looks at storage of either sort -/

namespace Store.Readable

variable {store : Store}

/-- **Where all that storage holds are rows, a look is answered as in memory with its contents.** -/
theorem perform_of_reads (h : store.Readable) (call : Call) (hreads : call.Reads) :
    (store.perform call).1 = (store.contents.perform call).1 ∧ (store.perform call).2 = store := by
  cases store with
  | memory held => exact ⟨rfl, congrArg Store.memory (held.perform_of_reads hreads)⟩
  | durable database =>
    cases call with
    | get table key =>
      refine ⟨?_, rfl⟩
      rw [Memory.perform_get]
      exact Durable.Readable.get_eq h table key
    | contains table key =>
      exact ⟨congrArg Except.ok (Durable.Readable.contains_eq h table key), rfl⟩
    | list table => exact ⟨Durable.Readable.list_eq h table, rfl⟩
    | hasChild o kind c => exact ⟨congrArg Except.ok (Durable.contains_children _).symm, rfl⟩
    | listChildren o kind => exact ⟨Durable.Readable.listChildren_eq h o kind, rfl⟩
    | _ => exact hreads.elim

end Store.Readable

/-- A program that only looks comes to what it does over memory with the same contents. -/
theorem Program.Reads.run_contents {α : Type} {program : Program α} (h : program.Reads)
    {world : World Store} (hreadable : world.store.Readable) :
    (program.run .store world).1 = (program.run .memory world.contents).1 := by
  induction h generalizing world with
  | done value => rfl
  | freshId _ ih => exact ih _ hreadable
  | now _ ih => exact ih _ hreadable
  | @call c next hc _ ih =>
    obtain ⟨hanswer, hstore⟩ := hreadable.perform_of_reads c hc
    have hcontents := world.store.contents.perform_of_reads hc
    show ((next (world.store.perform c).1).run .store
        { world with store := (world.store.perform c).2 }).1 =
      ((next (world.store.contents.perform c).1).run .memory
        { world.contents with store := (world.store.contents.perform c).2 }).1
    rw [hstore, hcontents, ← hanswer]
    exact ih _ hreadable

theorem Procedure.Reads.runWith_contents {α : Type} {procedure : Procedure α}
    (h : procedure.Reads) {world : World Store} (hreadable : world.store.Readable) :
    (procedure.runWith .store world).1 = (procedure.runWith .memory world.contents).1 :=
  Program.Reads.run_contents h hreadable

/-! ### What is fetched -/

namespace Memory

variable (memory : Memory) (kind : ChildKind) (o : String)

/-- What is wrong with the row under an id, if it is of another owner. -/
def foreign? (c : String) : Option Inconsistency :=
  match memory.fetch kind o c with
  | .error (.internal what) => some what
  | _ => none

/-- What is fetched under ids: the rows that there are, or the first that is of another owner. -/
def listing (ids : List String) : Except RegistryError (List kind.Row) :=
  match ids.findSome? (memory.foreign? kind o) with
  | some what => .error (.internal what)
  | none => .ok (ids.filterMap fun c => (memory.fetch kind o c).toOption)

variable {memory kind o} {c : String} {rest : List String}

theorem fetch_of_unlisted (h : memory.hasChild o kind c = false) :
    memory.fetch kind o c = .error (.notFound (.child kind c o)) := by
  rw [fetch, require, h]
  rfl

theorem fetch_of_listed (h : memory.hasChild o kind c = true) :
    memory.fetch kind o c = (memory.row? kind.table c).elim (.error (.notFound (.row kind.table c)))
      fun row => if kind.table.owner? row = some o then .ok row
        else .error
          (.internal (.foreignOwner kind (kind.table.key row) o (kind.table.owner? row))) := by
  rw [fetch, require_eq_ok.mpr h, find]
  cases memory.row? kind.table c <;> rfl

/-- A row is fetched, or is not found, or is of another owner. -/
theorem fetch_cases (memory : Memory) (kind : ChildKind) (o c : String) :
    (∃ row, memory.fetch kind o c = .ok row) ∨
      (∃ what, memory.fetch kind o c = .error (.notFound what)) ∨
        memory.hasChild o kind c = true ∧
          ∃ what, memory.fetch kind o c = .error (.internal what) := by
  cases hlisted : memory.hasChild o kind c with
  | false => exact Or.inr (Or.inl ⟨_, fetch_of_unlisted hlisted⟩)
  | true =>
    rw [fetch_of_listed hlisted]
    cases memory.row? kind.table c with
    | none => exact Or.inr (Or.inl ⟨_, rfl⟩)
    | some row =>
      dsimp only [Option.elim]
      split
      · exact Or.inl ⟨row, rfl⟩
      · exact Or.inr (Or.inr ⟨rfl, _, rfl⟩)

theorem listing_cons_of_fetched {row : kind.Row} (h : memory.fetch kind o c = .ok row) :
    memory.listing kind o (c :: rest) = (memory.listing kind o rest).map (row :: ·) := by
  have hforeign : memory.foreign? kind o c = none := by rw [foreign?, h]
  rw [listing, listing, List.findSome?_cons, hforeign, List.filterMap_cons, h]
  cases rest.findSome? (memory.foreign? kind o) <;> rfl

theorem listing_cons_of_missing {what : Subject}
    (h : memory.fetch kind o c = .error (.notFound what)) :
    memory.listing kind o (c :: rest) = memory.listing kind o rest := by
  have hforeign : memory.foreign? kind o c = none := by rw [foreign?, h]
  rw [listing, listing, List.findSome?_cons, hforeign, List.filterMap_cons, h]
  rfl

theorem listing_cons_of_foreign {what : Inconsistency}
    (h : memory.fetch kind o c = .error (.internal what)) :
    memory.listing kind o (c :: rest) = .error (.internal what) := by
  have hforeign : memory.foreign? kind o c = some what := by rw [foreign?, h]
  rw [listing, List.findSome?_cons, hforeign]

end Memory

/-! ### A listing, row by row -/

namespace ChildKind

variable {kind : ChildKind} {o : String} {world : World Memory}

/-- **A listing has what is fetched under each of its ids.** -/
theorem runWith_getAll_eq_listing {ids : List String}
    (hlisted : ∀ c ∈ ids, world.store.hasChild o kind c = true) :
    (kind.getAll o ids).runWith .memory world = (world.store.listing kind o ids, world) := by
  induction ids with
  | nil => rfl
  | cons c rest ih =>
    obtain ⟨hc, hrest⟩ := List.forall_mem_cons.mp hlisted
    have hget : Memory.perform (.get kind.table c) world.store =
        ((world.store.row? kind.table c).elim (.error (.notFound (.row kind.table c))) .ok,
          world.store) := Memory.perform_get _ _ _
    have hfetch := Memory.fetch_of_listed hc
    rw [ChildKind.getAll, runWith_bind_ok (runWith_attempt hget)]
    cases hrow : world.store.row? kind.table c with
    | none =>
      rw [hrow] at hfetch
      rw [Memory.listing_cons_of_missing hfetch]
      exact ih hrest
    | some row =>
      rw [hrow] at hfetch
      dsimp only [Option.elim] at hfetch ⊢
      by_cases howner : kind.table.owner? row = some o
      · rw [if_pos howner] at hfetch
        have hcheck : (kind.checkOwner o row).runWith .memory world = (.ok (), world) := by
          rw [ChildKind.checkOwner, if_pos howner]
          rfl
        rw [Memory.listing_cons_of_fetched hfetch, runWith_bind_ok hcheck]
        -- the rest is listed, or it fails and so does all
        cases hlisting : world.store.listing kind o rest with
        | ok rows =>
          rw [hlisting] at ih
          rw [runWith_bind_ok (ih hrest)]
          rfl
        | error error =>
          rw [hlisting] at ih
          rw [runWith_bind_error (ih hrest)]
          rfl
      · rw [if_neg howner] at hfetch
        have hcheck : (kind.checkOwner o row).runWith .memory world = (.error (.internal
            (.foreignOwner kind (kind.table.key row) o (kind.table.owner? row))), world) := by
          rw [ChildKind.checkOwner, if_neg howner]
          rfl
        rw [Memory.listing_cons_of_foreign hfetch, runWith_bind_error hcheck]

/-- The listing of a stored organization is that of the ids in its index. -/
theorem runWith_list_eq_listing (ho : world.store.row? .organizations o ≠ none) :
    (kind.list o).runWith .memory world =
      (world.store.listing kind o (world.store.listedIds o kind), world) := by
  have hids : Memory.perform (.listChildren o kind) world.store =
      (.ok (world.store.listedIds o kind), world.store) := by
    show (world.store.listChildren o kind, world.store) = _
    rw [Memory.listChildren_eq, if_pos]
    exact Option.isSome_iff_ne_none.mpr ho
  rw [ChildKind.list, runWith_bind_ok (runWith_perform hids)]
  exact runWith_getAll_eq_listing fun c hmem => (Memory.mem_listedIds_iff _).mp hmem

end ChildKind

/-! ### Agreement -/

namespace Memory

variable {memory : Memory} {kind : ChildKind} {o : String}

theorem foreign?_eq_some_iff {c : String} {what : Inconsistency} :
    memory.foreign? kind o c = some what ↔ memory.fetch kind o c = .error (.internal what) := by
  rw [foreign?]
  split
  · next found h =>
    rw [h, Option.some.injEq, Except.error.injEq, RegistryError.internal.injEq]
  · next hother => exact iff_of_false nofun (hother what)

/-- A listing fails if and only if a row of another owner is under one of its ids. -/
theorem exists_listing_eq_internal_iff {ids : List String} :
    (∃ what, memory.listing kind o ids = .error (.internal what)) ↔
      ∃ c ∈ ids, ∃ what, memory.fetch kind o c = .error (.internal what) := by
  simp only [← foreign?_eq_some_iff, ← Option.isSome_iff_exists]
  rw [← List.findSome?_isSome_iff, listing]
  cases ids.findSome? (memory.foreign? kind o) with
  | none => exact iff_of_false nofun nofun
  | some what => exact iff_of_true ⟨what, rfl⟩ rfl

/-- A listing that does not fail has what can be fetched. -/
theorem listing_eq_ok {ids : List String}
    (h : ∀ what, memory.listing kind o ids ≠ .error (.internal what)) :
    memory.listing kind o ids = .ok (ids.filterMap fun c => (memory.fetch kind o c).toOption) := by
  rw [listing] at h ⊢
  split
  · next what hforeign =>
    rw [hforeign] at h
    exact absurd rfl (h what)
  · rfl

/-- What is fetched by an id stands under it. -/
theorem Keyed.key_of_fetch (h : memory.Keyed) {c : String} {row : kind.Row}
    (hfetch : memory.fetch kind o c = .ok row) : kind.table.key row = c :=
  h _ _ _ (fetch_eq_ok.mp hfetch).present

/-- **The rows that are listed are those that can be fetched by their keys.** -/
theorem Keyed.mem_listed_iff (h : memory.Keyed) {row : kind.Row} :
    row ∈ (memory.listedIds o kind).filterMap (fun c => (memory.fetch kind o c).toOption) ↔
      memory.fetch kind o (kind.table.key row) = .ok row := by
  simp only [List.mem_filterMap, toOption_eq_some_iff]
  constructor
  · rintro ⟨c, -, hfetch⟩
    rwa [h.key_of_fetch hfetch]
  · intro hfetch
    exact ⟨_, (mem_listedIds_iff memory).mpr (fetch_eq_ok.mp hfetch).listed, hfetch⟩

/-- Rows are listed in the order of their keys. -/
theorem Keyed.pairwise_listed (h : memory.Keyed) :
    ((memory.listedIds o kind).filterMap fun c => (memory.fetch kind o c).toOption).Pairwise
      fun row row' => kind.table.key row < kind.table.key row' := by
  refine (memory.pairwise_listedIds o kind).filterMap _ fun c c' hlt row hrow row' hrow' => ?_
  rw [h.key_of_fetch (toOption_eq_some_iff.mp hrow), h.key_of_fetch (toOption_eq_some_iff.mp hrow')]
  exact hlt

end Memory

/-- **Listing and fetching agree**, for any stored organization and any kind, on any rows under
their own keys and any entries of the index.  A listing fails as inconsistent if and only if
fetching by one of the listed ids does.  Otherwise it has the rows that can be fetched by their
keys, once each and in the order of these, and there is nothing to be found under any other id. -/
theorem listing_agrees_with_fetching {world : World Store} (hreadable : world.store.Readable)
    (hkeyed : world.store.contents.Keyed) {o : String}
    (ho : (world.store.perform (.contains .organizations o)).1 = .ok true) (kind : ChildKind) :
    let list := ((Operation.list kind o).procedure.runWith .store world).1
    let get := fun c => ((Operation.get kind o c).procedure.runWith .store world).1
    ((∃ what, list = .error (.internal what)) ↔
      ∃ c, (world.store.perform (.hasChild o kind c)).1 = .ok true ∧
        ∃ what, get c = .error (.internal what)) ∧
    ((∀ what, list ≠ .error (.internal what)) →
      ∃ rows, list = .ok rows ∧
        rows.Pairwise (fun row row' => kind.table.key row < kind.table.key row') ∧
        (∀ row, row ∈ rows ↔ get (kind.table.key row) = .ok row) ∧
        ∀ c, (∀ row ∈ rows, kind.table.key row ≠ c) → ∃ what, get c = .error (.notFound what)) := by
  intro list get
  -- whatever is looked at is answered by the contents of storage
  have horganization : world.contents.store.row? .organizations o ≠ none := by
    have hcontains := (hreadable.perform_of_reads (.contains .organizations o) trivial).1
    rw [hcontains] at ho
    exact Option.isSome_iff_ne_none.mp (Except.ok.inj ho)
  have hhas : ∀ c, (world.store.perform (.hasChild o kind c)).1 = .ok true ↔
      c ∈ world.contents.store.listedIds o kind := by
    intro c
    rw [(hreadable.perform_of_reads (.hasChild o kind c) trivial).1, Memory.mem_listedIds_iff]
    exact (Except.ok.injEq _ _).to_iff
  have hlist : list =
      world.contents.store.listing kind o (world.contents.store.listedIds o kind) := by
    have hrun := (kind.reads_list o).runWith_contents hreadable
    rw [ChildKind.runWith_list_eq_listing horganization] at hrun
    exact hrun
  have hget : ∀ c, get c = world.contents.store.fetch kind o c := by
    intro c
    have hrun := (kind.reads_get o c).runWith_contents hreadable
    rw [ChildKind.runWith_get] at hrun
    exact hrun
  have hkeyed : world.contents.store.Keyed := hkeyed
  simp only [hlist, hget, hhas]
  refine ⟨Memory.exists_listing_eq_internal_iff, fun hsound => ?_⟩
  refine ⟨_, Memory.listing_eq_ok hsound, hkeyed.pairwise_listed, fun row => hkeyed.mem_listed_iff,
    fun c hother => ?_⟩
  rcases world.contents.store.fetch_cases kind o c with
    ⟨row, hfetch⟩ | hmissing | ⟨hlisted, hforeign⟩
  · refine absurd (hkeyed.key_of_fetch hfetch) (hother row (hkeyed.mem_listed_iff.mpr ?_))
    rwa [hkeyed.key_of_fetch hfetch]
  · exact hmissing
  · obtain ⟨what, hfails⟩ := Memory.exists_listing_eq_internal_iff.mpr
      ⟨c, (Memory.mem_listedIds_iff _).mpr hlisted, hforeign⟩
    exact absurd hfails (hsound what)

/-- Of three roles one has an entry, one has none and one is of another organization; a fourth entry
is for no role.  A user of another organization has an entry, too. -/
theorem listing_agrees_with_fetching_of_corrupt_index :
    let role (o id : String) : Role :=
      { (default : Role) with organizationId := o, roleId := id, name := id }
    let user : User :=
      { (default : User) with organizationId := "globex", email := "sam@mail.test" }
    let acme : Organization := { (default : Organization) with organizationId := "acme" }
    let held := ((((((((Memory.empty.put .organizations acme).put .roles (role "acme" "r1")).put
      .roles (role "acme" "r2")).put .roles (role "globex" "r4")).put .users user).enter "acme"
      .role "r3").enter "acme" .role "r1").enter "acme" .user "sam@mail.test")
    let world : World Store :=
      { store := .memory held, ids := { name := fun _ => "", drawn := 0 }, clock := 0 }
    let roles := ((Operation.list .role "acme").procedure.runWith .store world).1
    let users := ((Operation.list .user "acme").procedure.runWith .store world).1
    roles = .ok [role "acme" "r1"] ∧
      (∃ what, ((Operation.get .role "acme" "r2").procedure.runWith .store world).1 =
        .error (.notFound what)) ∧
      ∃ what, users = .error (.internal what) := by
  intro role user acme held world roles users
  have hreadable : world.store.Readable := trivial
  have hkeyed : world.store.contents.Keyed :=
    (((((Memory.keyed_empty.put .organizations acme).put .roles (role "acme" "r1")).put
      .roles (role "acme" "r2")).put .roles (role "globex" "r4")).put .users user)
  have ho : (world.store.perform (.contains .organizations "acme")).1 = .ok true := by
    decide +kernel
  have hroles : roles = .ok [role "acme" "r1"] := by decide +kernel
  refine ⟨hroles, ?_, ?_⟩
  · obtain ⟨-, hfound⟩ := listing_agrees_with_fetching hreadable hkeyed ho .role
    have hsound : ∀ what, roles ≠ .error (.internal what) := by
      intro what
      rw [hroles]
      exact nofun
    obtain ⟨rows, hrows, -, -, hother⟩ := hfound hsound
    obtain rfl : rows = [role "acme" "r1"] := Except.ok.inj (hrows.symm.trans hroles)
    refine hother "r2" fun row hmem => ?_
    rw [List.mem_singleton.mp hmem]
    decide
  · obtain ⟨hforeign, -⟩ := listing_agrees_with_fetching hreadable hkeyed ho .user
    have hfetched :
        ((Operation.get .user "acme" "sam@mail.test").procedure.runWith .store world).1 =
          .error (.internal (.foreignOwner .user "sam@mail.test" "acme" (some "globex"))) := by
      decide +kernel
    have hlisted : (world.store.perform (.hasChild "acme" .user "sam@mail.test")).1 = .ok true := by
      decide +kernel
    exact hforeign.mpr ⟨"sam@mail.test", hlisted, _, hfetched⟩

end TenantRegistry
