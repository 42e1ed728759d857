/-
TenantRegistry/Proofs/Rollbacks.lean

Making an instance, when anything fails.

An instance is made in up to four writes, each of a piece of its own: the row,
its entry in the index, its snapshot and its parameters.  `Saga` is what a series
of such writes may come to, with every call that it makes: all pieces are there,
or one write failed and the pieces before it were withdrawn, the latest first, so
that exactly those are left whose withdrawal was stopped (`ends_writeAll`).

Nothing is taken for granted about the state of storage.  The id may be in use in
any table, texts may be no rows, and any call may be stopped.

Main result: `instance_made_or_rolled_back`.
-/
import TenantRegistry.Proofs.Operations.Launches
import TenantRegistry.Proofs.Runs
import TenantRegistry.Proofs.Storage.Pieces

namespace TenantRegistry

open Procedure

/-! ### Writes of pieces -/

/-- The write of a piece, and its undo. -/
def Piece.toWrite : Piece → Write Program RegistryError
  | .row table held =>
    ⟨(perform (.add table held)).run, (perform (.remove table (table.key held))).run⟩
  | .entry o kind c => ⟨(perform (.addChild o kind c)).run, (perform (.removeChild o kind c)).run⟩

/-- Storage with pieces added, one after another. -/
def Backend.insertAll {σ : Type} (backend : Backend σ) (pieces : List Piece) (store : σ) : σ :=
  pieces.foldl (fun store piece => (backend.insert piece store).2) store

/-- A piece that was written, and what stopped the call that withdraws it. -/
structure Withdrawal where
  piece : Piece
  stop : Option StoreError

/-- The pieces that are left when some withdrawals were stopped. -/
def Withdrawal.left (withdrawals : List Withdrawal) : List Piece :=
  (withdrawals.filter fun withdrawal => withdrawal.stop.isSome).map Withdrawal.piece

/-- **What a series of writes may come to**: its calls, its result, and the storage after it. -/
inductive Saga {σ : Type} (backend : Backend σ) (start : σ) (pieces : List Piece) :
    List Attempt → Except RegistryError Unit → σ → Prop
  /-- All pieces are new, and are there. -/
  | made (accepted : ∀ piece ∈ pieces, (backend.insert piece start).1 = .ok ()) :
      Saga backend start pieces (pieces.map fun piece => ⟨piece.insertion, none⟩) (.ok ())
        (backend.insertAll pieces start)
  /-- The write of a piece was stopped or refused.  Those before it were withdrawn, the latest
  first, each by one call. -/
  | undone (before : List Withdrawal) (failed : Piece) (rest : List Piece)
      (fault : Option StoreError) (cause : StoreError)
      (order : pieces = before.map Withdrawal.piece ++ failed :: rest)
      (accepted : ∀ withdrawal ∈ before, (backend.insert withdrawal.piece start).1 = .ok ())
      (failure : fault = some cause ∨ fault = none ∧
        (backend.insert failed
          (backend.insertAll (before.map Withdrawal.piece) start)).1 = .error cause) :
      Saga backend start pieces
        ((before.map fun withdrawal => ⟨withdrawal.piece.insertion, none⟩) ++
          ⟨failed.insertion, fault⟩ ::
          before.reverse.map fun withdrawal => ⟨withdrawal.piece.withdrawal, withdrawal.stop⟩)
        (.error (.ofStore cause)) (backend.insertAll (Withdrawal.left before) start)

namespace Backend

variable {σ : Type} {backend : Backend σ}

@[simp] theorem insertAll_append (pieces more : List Piece) (store : σ) :
    backend.insertAll (pieces ++ more) store =
      backend.insertAll more (backend.insertAll pieces store) :=
  List.foldl_append

@[simp] theorem insertAll_singleton (piece : Piece) (store : σ) :
    backend.insertAll [piece] store = (backend.insert piece store).2 := rfl

namespace Orderly

variable (orderly : backend.Orderly)

include orderly

/-- Whether a piece is accepted does not depend on pieces that go elsewhere. -/
theorem insert_insertAll {piece : Piece} {others : List Piece}
    (h : ∀ other ∈ others, piece.Apart other) (store : σ) :
    (backend.insert piece (backend.insertAll others store)).1 = (backend.insert piece store).1 := by
  induction others generalizing store with
  | nil => rfl
  | cons other rest ih =>
    obtain ⟨hother, hrest⟩ := List.forall_mem_cons.mp h
    exact (ih hrest _).trans (orderly.insert_apart piece other store hother)

/-- A piece that was inserted is withdrawn past those that were inserted after it. -/
theorem withdraw_insertAll {piece : Piece} {later : List Piece}
    (h : ∀ other ∈ later, piece.Apart other) {store : σ}
    (haccepted : (backend.insert piece store).1 = .ok ()) :
    backend.withdraw piece (backend.insertAll later (backend.insert piece store).2) =
      (.ok (), backend.insertAll later store) := by
  -- the latest of those is passed first
  induction later using List.reverseRecOn with
  | nil => exact orderly.withdrawn piece store haccepted
  | append_singleton earlier other ih =>
    rw [insertAll_append, insertAll_append, insertAll_singleton, insertAll_singleton,
      orderly.withdraw_apart piece other _ (h other (by simp)),
      ih fun other hmem => h other (List.mem_append_left _ hmem)]

end Orderly

end Backend

/-! ### One write, and one undo -/

section Pieces

variable {σ : Type} {backend : Backend σ} {world world' : World σ} {trace : List Attempt}

/-- The write of a piece is made, or is stopped or refused and changes nothing. -/
theorem Piece.ends_write (orderly : backend.Orderly) {piece : Piece}
    {result : Except RegistryError Unit}
    (h : piece.toWrite.write.Ends backend world trace result world') :
    (result = .ok () ∧ (backend.insert piece world.store).1 = .ok () ∧
        trace = [⟨piece.insertion, none⟩] ∧
        world'.store = (backend.insert piece world.store).2) ∨
      ∃ fault cause, result = .error (.ofStore cause) ∧ trace = [⟨piece.insertion, fault⟩] ∧
        world'.store = world.store ∧
        (fault = some cause ∨ fault = none ∧
          (backend.insert piece world.store).1 = .error cause) := by
  have hends : (∃ error, trace = [⟨piece.insertion, some error⟩] ∧
      result = .error (.ofStore error) ∧ world' = world) ∨
      (trace = [⟨piece.insertion, none⟩] ∧
        result = (backend.insert piece world.store).1.mapError RegistryError.ofStore ∧
        world' = { world with store := (backend.insert piece world.store).2 }) := by
    cases piece <;> exact ends_perform h
  rcases hends with ⟨error, rfl, rfl, rfl⟩ | ⟨rfl, rfl, rfl⟩
  · exact Or.inr ⟨some error, error, rfl, rfl, rfl, Or.inl rfl⟩
  · rcases e : (backend.insert piece world.store).1 with cause | ⟨⟩
    · exact Or.inr ⟨none, cause, rfl, rfl, orderly.refused piece _ cause e, Or.inr ⟨rfl, rfl⟩⟩
    · exact Or.inl ⟨rfl, rfl, rfl, rfl⟩

/-- The undo of a piece is stopped, or it is made. -/
theorem Piece.ends_undo {piece : Piece} {result : Except RegistryError Unit}
    (h : piece.toWrite.undo.Ends backend world trace result world') :
    ∃ stop, trace = [⟨piece.withdrawal, stop⟩] ∧
      world'.store =
        if stop.isSome then world.store else (backend.withdraw piece world.store).2 := by
  have hends : (∃ error, trace = [⟨piece.withdrawal, some error⟩] ∧
      result = .error (.ofStore error) ∧ world' = world) ∨
      (trace = [⟨piece.withdrawal, none⟩] ∧
        result = (backend.withdraw piece world.store).1.mapError RegistryError.ofStore ∧
        world' = { world with store := (backend.withdraw piece world.store).2 }) := by
    cases piece <;> exact ends_perform h
  rcases hends with ⟨error, rfl, -, rfl⟩ | ⟨rfl, -, rfl⟩
  · exact ⟨some error, rfl, rfl⟩
  · exact ⟨none, rfl, rfl⟩

/-! ### Series of writes and of undos -/

variable {start : σ}

/-- **Pieces are withdrawn, the latest first, and those are left whose withdrawal is stopped.**
What is left of later pieces stays. -/
theorem ends_undos (orderly : backend.Orderly) {before later : List Piece}
    (happart : (before ++ later).Pairwise Piece.Apart)
    (haccepted : ∀ piece ∈ before, (backend.insert piece start).1 = .ok ())
    (hworld : world.store = backend.insertAll (before ++ later) start)
    (h : (UndoLog.runAll (before.map fun piece : Piece => piece.toWrite.undo).reverse).Ends backend
      world trace () world') :
    ∃ withdrawals : List Withdrawal, withdrawals.map Withdrawal.piece = before ∧
      trace = withdrawals.reverse.map
        (fun withdrawal => ⟨withdrawal.piece.withdrawal, withdrawal.stop⟩) ∧
      world'.store = backend.insertAll (Withdrawal.left withdrawals ++ later) start := by
  induction before using List.reverseRecOn generalizing later world trace with
  | nil =>
    obtain ⟨rfl, rfl⟩ := ends_runAll_nil rfl h
    exact ⟨[], rfl, rfl, hworld⟩
  | append_singleton earlier piece ih =>
    rw [List.map_append, List.map_singleton, List.reverse_append, List.reverse_singleton,
      List.singleton_append] at h
    obtain ⟨undone, w₁, t₁, t₂, hundo, hrest, rfl⟩ := ends_runAll_cons h
    obtain ⟨stop, rfl, hstore⟩ := Piece.ends_undo hundo
    rw [List.append_assoc, List.singleton_append] at happart hworld
    obtain ⟨hearlier, hpiece, hacross⟩ := List.pairwise_append.mp happart
    obtain ⟨hlater, -⟩ := List.pairwise_cons.mp hpiece
    have hnew : (backend.insert piece (backend.insertAll earlier start)).1 = .ok () := by
      rw [orderly.insert_insertAll fun other hmem =>
        (hacross other hmem piece List.mem_cons_self).symm]
      exact haccepted piece (by simp)
    -- the piece is left, or withdrawn past what is left of the later ones
    cases stop with
    | some error =>
      obtain ⟨withdrawals, hpieces, rfl, hafter⟩ := ih happart
        (fun other hmem => haccepted other (List.mem_append_left _ hmem)) (hstore.trans hworld)
        hrest
      refine ⟨withdrawals ++ [⟨piece, some error⟩], by simp [hpieces], by simp, ?_⟩
      rw [hafter]
      simp [Withdrawal.left]
    | none =>
      have hwithdrawn : w₁.store = backend.insertAll (earlier ++ later) start := by
        rw [hstore, hworld, Backend.insertAll_append, Backend.insertAll_append]
        exact congrArg Prod.snd (orderly.withdraw_insertAll hlater hnew)
      have happart' : (earlier ++ later).Pairwise Piece.Apart :=
        List.pairwise_append.mpr ⟨hearlier, (List.pairwise_cons.mp hpiece).2,
          fun other hmem other' hmem' => hacross other hmem other' (List.mem_cons_of_mem _ hmem')⟩
      obtain ⟨withdrawals, hpieces, rfl, hafter⟩ := ih happart'
        (fun other hmem => haccepted other (List.mem_append_left _ hmem)) hwithdrawn hrest
      refine ⟨withdrawals ++ [⟨piece, none⟩], by simp [hpieces], by simp, ?_⟩
      rw [hafter]
      simp [Withdrawal.left]

/-- **A series of writes of pieces that go to different places**, some of which are made. -/
theorem ends_writeAll_after (orderly : backend.Orderly) {made pieces : List Piece}
    {result : Except RegistryError Unit} (happart : (made ++ pieces).Pairwise Piece.Apart)
    (haccepted : ∀ piece ∈ made, (backend.insert piece start).1 = .ok ())
    (hworld : world.store = backend.insertAll made start)
    (h : (UndoLog.writeAll ⟨(made.map fun piece => piece.toWrite.undo).reverse⟩
      (pieces.map Piece.toWrite)).Ends backend world trace result world') :
    Saga backend start (made ++ pieces)
      ((made.map fun piece => ⟨piece.insertion, none⟩) ++ trace) result world'.store := by
  induction pieces generalizing made world trace with
  | nil =>
    cases h
    rw [List.append_nil, List.append_nil, hworld]
    exact .made haccepted
  | cons piece rest ih =>
    rcases ends_writeAll_cons h with
      ⟨error, w₁, t₁, t₂, hfailed, hundo, rfl, rfl⟩ | ⟨w₁, t₁, t₂, hmade, hrest, rfl⟩
    · rcases Piece.ends_write orderly hfailed with
        ⟨hok, -⟩ | ⟨fault, cause, herror, rfl, hstore, hcause⟩
      · cases hok
      · cases herror
        -- all that was made is withdrawn, and nothing comes after it
        have hmade : (made ++ []).Pairwise Piece.Apart := by
          rw [List.append_nil]
          exact (List.pairwise_append.mp happart).1
        have hundone : w₁.store = backend.insertAll (made ++ []) start := by
          rw [hstore, hworld, List.append_nil]
        obtain ⟨withdrawals, rfl, rfl, hafter⟩ := ends_undos orderly hmade haccepted hundone hundo
        rw [hafter, List.append_nil, List.map_map]
        rw [hworld] at hcause
        exact .undone withdrawals piece rest fault cause rfl
          (fun withdrawal hmem => haccepted _ (List.mem_map_of_mem hmem)) hcause
    · rcases Piece.ends_write orderly hmade with ⟨-, hnew, rfl, hstore⟩ | ⟨_, _, hok, -⟩
      · rw [hworld, orderly.insert_insertAll fun other hmem =>
          ((List.pairwise_append.mp happart).2.2 other hmem piece List.mem_cons_self).symm] at hnew
        rw [List.append_cons] at happart ⊢
        have hdone : (made.map fun piece => (⟨piece.insertion, none⟩ : Attempt)) ++
            ([⟨piece.insertion, none⟩] ++ t₂) =
            ((made ++ [piece]).map fun piece => ⟨piece.insertion, none⟩) ++ t₂ := by
          rw [List.map_append, List.append_assoc, List.map_singleton]
        rw [hdone]
        have hnext : w₁.store = backend.insertAll (made ++ [piece]) start := by
          rw [hstore, hworld, Backend.insertAll_append, Backend.insertAll_singleton]
        refine ih happart ?accepted hnext ?rest
        case accepted =>
          intro other hmem
          rcases List.mem_append.mp hmem with hmem | hmem
          · exact haccepted other hmem
          · rwa [List.mem_singleton.mp hmem]
        case rest =>
          rw [List.map_append, List.reverse_append]
          exact hrest
      · cases hok

/-- A series of writes of pieces that go to different places. -/
theorem ends_writeAll (orderly : backend.Orderly) {pieces : List Piece}
    {result : Except RegistryError Unit} (happart : pieces.Pairwise Piece.Apart)
    (h : (UndoLog.empty.writeAll (pieces.map Piece.toWrite)).Ends backend world trace result
      world') :
    Saga backend world.store pieces trace result world'.store := by
  have hnone : ([] ++ pieces).Pairwise Piece.Apart := happart
  exact ends_writeAll_after orderly hnone (List.forall_mem_nil _) rfl h

end Pieces

/-! ### Looking at any storage -/

namespace Procedure

variable {σ α β : Type} {backend : Backend σ} {world world' : World σ} {trace : List Attempt}

/-- A procedure that only looks, and whose value is then as `seen` says. -/
def Observes (backend : Backend σ) (world : World σ) (procedure : Procedure α)
    (seen : α → Prop) : Prop :=
  ∀ ⦃trace result world'⦄, procedure.Ends backend world trace result world' →
    world' = world ∧ (∀ attempt ∈ trace, attempt.call.Reads) ∧
      ∀ value, result = .ok value → seen value

theorem observes_pure {value : α} {seen : α → Prop} (h : seen value) :
    Observes backend world (pure value) seen := by
  intro trace result world' hends
  obtain ⟨rfl, rfl, rfl⟩ := ends_pure hends
  exact ⟨rfl, List.forall_mem_nil _, fun _ hok => Except.ok.inj hok ▸ h⟩

theorem observes_check (value : Except RegistryError α) :
    Observes backend world (check value) fun found => value = .ok found := by
  intro trace result world' hends
  obtain ⟨rfl, rfl, rfl⟩ := ends_check hends
  exact ⟨rfl, List.forall_mem_nil _, fun _ hok => hok⟩

theorem observes_perform (orderly : backend.Orderly) (call : Call) (hcall : call.Reads) :
    Observes backend world (perform call) fun answer =>
      (backend.perform call world.store).1 = .ok answer := by
  intro trace result world' hends
  rcases ends_perform hends with ⟨error, rfl, rfl, rfl⟩ | ⟨rfl, rfl, rfl⟩
  · exact ⟨rfl, List.forall_mem_singleton.mpr hcall, nofun⟩
  · refine ⟨?_, List.forall_mem_singleton.mpr hcall, fun answer hok => ?_⟩
    · rw [orderly.reads call world.store hcall]
    · rcases e : (backend.perform call world.store).1 with cause | found
      · rw [e] at hok
        cases hok
      · rw [e] at hok
        cases hok
        rfl

/-- A sequence observes what its second part does. -/
theorem Observes.bind {procedure : Procedure α} {f : α → Procedure β} {seen : α → Prop}
    {seen' : β → Prop} (h : Observes backend world procedure seen)
    (hf : ∀ value, seen value → Observes backend world (f value) seen') :
    Observes backend world (procedure >>= f) seen' := by
  intro trace result world' hends
  rcases ends_bind hends with ⟨error, hfirst, rfl⟩ | ⟨value, w, t₁, t₂, hfirst, hrest, rfl⟩
  · obtain ⟨rfl, hreads, -⟩ := h hfirst
    exact ⟨rfl, hreads, nofun⟩
  · obtain ⟨rfl, hreads, hseen⟩ := h hfirst
    obtain ⟨rfl, hreads', hseen'⟩ := hf value (hseen value rfl) hrest
    exact ⟨rfl, List.forall_mem_append.mpr ⟨hreads, hreads'⟩, hseen'⟩

theorem observes_throw {error : RegistryError} {seen : α → Prop} :
    Observes backend world (throw error) seen := by
  intro trace result world' hends
  obtain ⟨rfl, rfl, rfl⟩ := ends_throw hends
  exact ⟨rfl, List.forall_mem_nil _, nofun⟩

end Procedure

section Observing

variable {σ : Type} {backend : Backend σ} {world : World σ} (orderly : backend.Orderly)

include orderly

theorem observes_requireOrganization (o : String) :
    Observes backend world (requireOrganization o) fun _ => True := by
  refine (observes_perform orderly (.contains .organizations o) trivial).bind
    fun found _ => ?_
  cases found
  · exact observes_throw
  · exact observes_pure trivial

theorem observes_listByOwner (table : Table) (owner : String) :
    Observes backend world (listByOwner table owner) fun rows =>
      ∃ all : List table.Row, (backend.perform (.list table) world.store).1 = .ok all ∧
        rows = all.filter fun row => table.owner? row = some owner :=
  (observes_perform orderly (.list table) trivial).bind
    fun all hall => observes_pure ⟨all, hall, rfl⟩

theorem ChildKind.observes_get (kind : ChildKind) (o c : String) :
    Observes backend world (kind.get o c) fun row =>
      (backend.perform (.get kind.table c) world.store).1 = .ok row ∧
        kind.table.owner? row = some o := by
  have hrequire : Observes backend world (kind.require o c) fun _ => True := by
    refine (observes_perform orderly (.hasChild o kind c) trivial).bind fun found _ => ?_
    cases found
    · exact observes_throw
    · exact observes_pure trivial
  refine hrequire.bind fun _ _ =>
    (observes_perform orderly (.get kind.table c) trivial).bind fun row hrow => ?_
  have howner : Observes backend world (kind.checkOwner o row) fun _ =>
      kind.table.owner? row = some o := by
    rw [checkOwner]
    split
    · next heq => exact observes_pure heq
    · exact observes_throw
  exact howner.bind fun _ heq => observes_pure ⟨hrow, heq⟩

end Observing

/-! ### Making an instance -/

namespace Instances

/-- The pieces of an instance, in the order in which they are written. -/
def pieces (app : Instance) (snapshot : Snapshot) (parameters : Option InstanceParameters) :
    List Piece :=
  [.row .instances app, .entry app.organizationId .appInstance app.instanceId,
    .row .snapshots snapshot] ++ parameters.toList.map (.row .parameters)

/-- **What a request asks for**, by what is stored, the next id and the clock. -/
structure Requested (world : World Store) (request : NewInstance) (app : Instance)
    (snapshot : Snapshot) (parameters : Option InstanceParameters) : Prop where
  /-- The descriptor that is stored under the id is the organization's, and the snapshot is made
  of it and of the device groups of the organization. -/
  descriptor : ∃ (descriptor : Descriptor) (deviceGroups : List DeviceGroup),
    (world.store.perform (.get .descriptors request.descriptorId)).1 = .ok descriptor ∧
      descriptor.organizationId = request.organizationId ∧
      world.store.rows .deviceGroups = .ok deviceGroups ∧
      descriptor.snapshot world.ids.next (deviceGroups.filter fun group =>
        Table.deviceGroups.owner? group = some request.organizationId) = .ok snapshot ∧
      app = {
        instanceId := world.ids.next
        organizationId := request.organizationId
        descriptorId := descriptor.descriptorId
        name := request.name
        labels := request.labels
        status := .deploying
        groups := []
        created := world.clock
        revision := 0 }
  parameters : parameters = request.parameters.map fun parameters =>
    { organizationId := request.organizationId, instanceId := world.ids.next, parameters }

/-- **How making an instance may end**: its calls, its result, and the storage after it. -/
inductive Making (world : World Store) (request : NewInstance) :
    List Attempt → Except RegistryError Instance → Store → Prop
  /-- It fails before the first write. -/
  | failed (looks : List Attempt) (reads : ∀ attempt ∈ looks, attempt.call.Reads)
      (error : RegistryError) : Making world request looks (.error error) world.store
  /-- The writes are all made, or fail as they do. -/
  | written (looks writes : List Attempt) (reads : ∀ attempt ∈ looks, attempt.call.Reads)
      (app : Instance) (snapshot : Snapshot) (parameters : Option InstanceParameters)
      (requested : Requested world request app snapshot parameters)
      (outcome : Except RegistryError Unit) (store : Store)
      (saga : Saga .store world.store (pieces app snapshot parameters) writes outcome store) :
      Making world request (looks ++ writes) (outcome.map fun _ => app) store

variable {world world' : World Store} {request : NewInstance} {trace : List Attempt}
  {result : Except RegistryError Instance}

theorem Making.after_looks {store : Store} {looks : List Attempt}
    (hlooks : ∀ attempt ∈ looks, attempt.call.Reads)
    (h : Making world request trace result store) :
    Making world request (looks ++ trace) result store := by
  cases h with
  | failed looks' reads error => exact .failed _ (List.forall_mem_append.mpr ⟨hlooks, reads⟩) error
  | written looks' writes reads app snapshot parameters requested outcome store saga =>
    rw [← List.append_assoc]
    exact .written _ writes (List.forall_mem_append.mpr ⟨hlooks, reads⟩) app snapshot parameters
      requested outcome store saga

/-- An instance is made after a look, which fails or shows what the rest goes by. -/
theorem Making.of_look {α : Type} {between : World Store} {procedure : Procedure α}
    {f : α → Procedure Instance} {seen : α → Prop}
    (hlook : Observes .store between procedure seen)
    (h : (procedure >>= f).Ends .store between trace result world')
    (hbetween : between.store = world.store)
    (hrest : ∀ value, seen value → ∀ ⦃rest⦄, (f value).Ends .store between rest result world' →
      Making world request rest result world'.store) :
    Making world request trace result world'.store := by
  rcases ends_bind h with ⟨error, hfirst, rfl⟩ | ⟨value, w, t₁, t₂, hfirst, hends, rfl⟩
  · obtain ⟨rfl, hreads, -⟩ := hlook hfirst
    rw [hbetween]
    exact .failed trace hreads error
  · obtain ⟨rfl, hreads, hseen⟩ := hlook hfirst
    exact (hrest value (hseen value rfl) hends).after_looks hreads

/-- The writes that make an instance are those of its pieces. -/
theorem creation_eq {app : Instance} {snapshot : Snapshot} {parameters : Option InstanceParameters}
    (hsnapshot : snapshot.instanceId = app.instanceId)
    (hparameters : ∀ given ∈ parameters, given.instanceId = app.instanceId) :
    creation app snapshot parameters = (pieces app snapshot parameters).map Piece.toWrite := by
  rw [creation, pieces, List.map_append, List.map_map]
  -- an undo goes by the id of the instance, which is the key of all its rows
  refine congrArg₂ (· ++ ·) ?first (List.map_congr_left fun given hmem => ?last)
  case first =>
    have hcopy : (Piece.row .snapshots snapshot).toWrite =
        ⟨(perform (.add .snapshots snapshot)).run,
          (perform (.remove .snapshots app.instanceId)).run⟩ := by
      rw [← hsnapshot]
      rfl
    rw [List.map_cons, List.map_cons, List.map_singleton, hcopy]
    rfl
  case last =>
    rw [← hparameters given (Option.mem_toList.mp hmem)]
    rfl

/-- No two pieces of an instance go to the same place. -/
theorem pairwise_pieces (app : Instance) (snapshot : Snapshot)
    (parameters : Option InstanceParameters) :
    (pieces app snapshot parameters).Pairwise Piece.Apart := by
  cases parameters <;> simp [pieces, Piece.apart_iff, Piece.table?]

/-- The writes of what was asked for. -/
theorem Requested.making {app : Instance} {snapshot : Snapshot}
    {parameters : Option InstanceParameters} {between : World Store}
    (requested : Requested world request app snapshot parameters)
    (h : (ExceptT.mk (UndoLog.empty.writeAll (creation app snapshot parameters)) >>=
      fun _ => pure app : Procedure Instance).Ends .store between trace result world')
    (hbetween : between.store = world.store) :
    Making world request trace result world'.store := by
  obtain ⟨descriptor, deviceGroups, -, -, -, hsnapshot, happ⟩ := requested.descriptor
  have hcopy : snapshot.instanceId = app.instanceId := by
    rw [(snapshot_ok hsnapshot).1, happ]
  have hgiven : ∀ given ∈ parameters, given.instanceId = app.instanceId := by
    intro given hmem
    rw [requested.parameters] at hmem
    obtain ⟨_, -, rfl⟩ := Option.map_eq_some_iff.mp hmem
    rw [happ]
  -- the writes come to an outcome, and the answer is that or the instance
  obtain ⟨outcome, hwrites, rfl⟩ : ∃ outcome, Program.Ends .store
      (UndoLog.empty.writeAll (creation app snapshot parameters)) between trace outcome world' ∧
      result = outcome.map fun _ => app := by
    rcases ends_bind h with ⟨error, hfirst, rfl⟩ | ⟨value, w, t₁, t₂, hfirst, hrest, rfl⟩
    · exact ⟨_, hfirst, rfl⟩
    · obtain ⟨rfl, rfl, rfl⟩ := ends_pure hrest
      rw [List.append_nil]
      exact ⟨_, hfirst, rfl⟩
  rw [creation_eq hcopy hgiven] at hwrites
  have hsaga := ends_writeAll Store.orderly (pairwise_pieces app snapshot parameters) hwrites
  rw [hbetween] at hsaga
  exact .written [] trace (List.forall_mem_nil _) app snapshot parameters requested outcome _ hsaga

/-- **Making an instance adds the instance, its entry, its snapshot and the parameters that were
given, or fails with what the first write failed with that did not succeed**, and then exactly the
writes before it remain whose undo was stopped. -/
theorem instance_made_or_rolled_back
    (h : (Operation.addInstance request).procedure.Ends .store world trace result world') :
    Making world request trace result world'.store := by
  change (Instances.add request).Ends .store world trace result world' at h
  refine .of_look (observes_check _) h rfl fun _ _ _ h => ?_
  refine .of_look (observes_requireOrganization Store.orderly _) h rfl fun _ _ _ h => ?_
  refine .of_look (ChildKind.descriptor.observes_get Store.orderly _ _) h rfl
    fun descriptor ⟨hdescriptor, howner⟩ _ h => ?_
  have howner : descriptor.organizationId = request.organizationId := Option.some.inj howner
  -- the id is drawn before the last looks, which may still fail
  rcases ends_bind h with ⟨error, hfirst, -⟩ | ⟨instanceId, drawn, t₁, t₂, hfirst, h, rfl⟩
  · obtain ⟨-, hok, -⟩ := ends_freshId hfirst
    cases hok
  obtain ⟨rfl, hid, rfl⟩ := ends_freshId hfirst
  cases hid
  rw [List.nil_append]
  refine .of_look (observes_listByOwner Store.orderly .deviceGroups descriptor.organizationId) h rfl
    fun groups ⟨deviceGroups, hgroups, hfiltered⟩ _ h => ?_
  refine .of_look (observes_check _) h rfl fun snapshot hsnapshot _ h => ?_
  rcases ends_bind h with ⟨error, hnow, -⟩ | ⟨created, later, t₃, t₄, hnow, h, rfl⟩
  · obtain ⟨-, hok, -⟩ := ends_now hnow
    cases hok
  obtain ⟨rfl, hcreated, rfl⟩ := ends_now hnow
  cases hcreated
  rw [List.nil_append]
  refine Requested.making ⟨⟨descriptor, deviceGroups, hdescriptor, howner, hgroups, ?_, rfl⟩, rfl⟩
    h rfl
  rw [← howner, ← hfiltered]
  exact hsnapshot

/-- The snapshot and the undo of the entry are stopped: the entry remains, and the row does not. -/
theorem instance_rolled_back_but_for_entry :
    let start : World Store :=
      { store := .memory .empty, ids := .sequential "id", clock := 0 }
    let service : Service := { (default : Service) with name := "api", image := "api:1" }
    let group : ServiceGroup :=
      { (default : ServiceGroup) with name := "web", services := [service] }
    let steps : List (Operation × Int64 × List (Option StoreError)) :=
      [(.addOrganization { (default : NewOrganization) with name := "acme" }, 1, []),
        (.addDescriptor { (default : NewDescriptor) with
          organizationId := "id-1", name := "shop", groups := [group] }, 2, [])]
    let request : NewInstance :=
      { (default : NewInstance) with
        organizationId := "id-1", descriptorId := "id-2", name := "shop"
        parameters := some [] }
    let disk : StoreError := .write "disk"
    let index : StoreError := .write "index"
    let faults := [none, none, none, none, none, none, some disk, some index]
    let world := (start.afterStopping steps).at 3
    let ended := (Operation.addInstance request).procedure.run.runStopping .store faults world
    ended.1 = .error (.ofStore disk) ∧
      (ended.2.2.store.perform (.hasChild "id-1" .appInstance "id-5")).1 = .ok true ∧
      (ended.2.2.store.perform (.contains .instances "id-5")).1 = .ok false ∧
      ∃ app snapshot parameters looks writes outcome,
        Requested world request app snapshot parameters ∧ ended.2.1 = looks ++ writes ∧
          Saga .store world.store (pieces app snapshot parameters) writes outcome
            ended.2.2.store := by
  intro start service group steps request disk index faults world ended
  have hlisted : (ended.2.2.store.perform (.hasChild "id-1" .appInstance "id-5")).1 = .ok true := by
    decide +kernel
  refine ⟨by decide +kernel, hlisted, by decide +kernel, ?_⟩
  have hmaking := instance_made_or_rolled_back (Program.ends_runStopping .store
    (Operation.addInstance request).procedure.run faults world)
  change Making world request ended.2.1 ended.1 ended.2.2.store at hmaking
  generalize htrace : ended.2.1 = trace at hmaking
  generalize hresult : ended.1 = result at hmaking
  generalize hstore : ended.2.2.store = store at hmaking hlisted
  cases hmaking with
  | failed =>
    -- the entry is new, so storage is not as it was
    have hunlisted :
        (world.store.perform (.hasChild "id-1" .appInstance "id-5")).1 = .ok false := by
      decide +kernel
    rw [hunlisted] at hlisted
    cases hlisted
  | written looks writes _ app snapshot parameters requested outcome store saga =>
    exact ⟨app, snapshot, parameters, looks, writes, outcome, requested, rfl, saga⟩

end Instances

end TenantRegistry
