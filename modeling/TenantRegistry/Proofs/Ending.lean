/-
TenantRegistry/Proofs/Ending.lean

How a program may end when storage fails.

`Program.run` runs a program against storage that answers every call.  Here any
call may be stopped instead: it fails with some error and never reaches
storage.  `Program.Ends` relates a program and the world it starts in to the
ways it may end, each with the trace of its calls.  Nothing limits which calls
are stopped, how many, or with what.

A run without stops is `Program.run` (`ends_run`, `run_of_ends`), and what the
faults of a session do is one way to end (`ends_faulty`).

The rest is for taking an ending apart.  A sequence ends in its first part or
goes on with the second (`Procedure.ends_bind`), and a program over storage of
either sort ends as it does over memory with the same contents
(`Program.ends_contents`).
-/
import TenantRegistry.Ownership
import TenantRegistry.Proofs.Storage.Contents

namespace TenantRegistry

/-! ### Traces -/

/-- A call as it went: it was made, or something stopped it before it reached storage. -/
structure Attempt where
  call : Call
  /-- What stopped it. -/
  fault : Option StoreError

/-- How many calls were stopped. -/
def stops (trace : List Attempt) : Nat := trace.countP fun attempt => attempt.fault.isSome

@[simp] theorem stops_nil : stops [] = 0 := rfl

@[simp] theorem stops_append (first rest : List Attempt) :
    stops (first ++ rest) = stops first + stops rest :=
  List.countP_append

@[simp] theorem stops_made (call : Call) : stops [⟨call, none⟩] = 0 := rfl

@[simp] theorem stops_stopped (call : Call) (error : StoreError) :
    stops [⟨call, some error⟩] = 1 := rfl

theorem stops_ne_zero {trace : List Attempt} {attempt : Attempt} (h : attempt ∈ trace)
    (hfault : attempt.fault.isSome = true) : stops trace ≠ 0 :=
  Nat.ne_of_gt (List.countP_pos_iff.mpr ⟨attempt, h, hfault⟩)

/-! ### Ids -/

/-- A source of ids after more ids were drawn from it. -/
structure IdSource.Extends (before after : IdSource) : Prop where
  name : after.name = before.name
  drawn : before.drawn ≤ after.drawn

theorem IdSource.Extends.refl (ids : IdSource) : ids.Extends ids := ⟨rfl, le_refl _⟩

theorem IdSource.Extends.trans {first second third : IdSource} (h : first.Extends second)
    (h' : second.Extends third) : first.Extends third :=
  ⟨h'.name.trans h.name, h.drawn.trans h'.drawn⟩

theorem IdSource.extends_rest (ids : IdSource) : ids.Extends ids.rest := ⟨rfl, Nat.le_succ _⟩

/-- Among the ids drawn between two states of a source. -/
def IdSource.Issued (before after : IdSource) (id : String) : Prop :=
  ∃ n, before.drawn ≤ n ∧ n < after.drawn ∧ id = after.name n

theorem IdSource.Issued.mono {before later after : IdSource} {id : String}
    (h : before.Extends later) (hid : later.Issued after id) : before.Issued after id := by
  obtain ⟨n, hdrawn, hlt, heq⟩ := hid
  exact ⟨n, h.drawn.trans hdrawn, hlt, heq⟩

/-- An id that is drawn is issued. -/
theorem IdSource.issued_next {ids after : IdSource} (h : ids.rest.Extends after) :
    ids.Issued after ids.next := by
  refine ⟨ids.drawn, le_refl _, h.drawn, ?_⟩
  rw [h.name]
  rfl

/-- What was issued stays issued when more is drawn. -/
theorem IdSource.Issued.extend {before after later : IdSource} {id : String}
    (h : before.Issued after id) (hlater : after.Extends later) : before.Issued later id := by
  obtain ⟨n, hdrawn, hlt, rfl⟩ := h
  exact ⟨n, hdrawn, hlt.trans_le hlater.drawn, by rw [hlater.name]⟩

/-- An id that is issued is plain if all ids are. -/
theorem IdSource.Issued.plain {before after : IdSource} {id : String} (h : before.Issued after id)
    (hplain : ∀ n, Plain (after.name n)) : Plain id := by
  obtain ⟨n, -, -, rfl⟩ := h
  exact hplain n

/-- Among the ids drawn so far. -/
def IdSource.Drawn (ids : IdSource) (id : String) : Prop := ∃ n < ids.drawn, id = ids.name n

theorem IdSource.Drawn.later {before after : IdSource} {id : String} (h : before.Drawn id)
    (hext : before.Extends after) : after.Drawn id := by
  obtain ⟨n, hlt, rfl⟩ := h
  exact ⟨n, hlt.trans_le hext.drawn, by rw [hext.name]⟩

theorem IdSource.Issued.drawn {before after : IdSource} {id : String} (h : before.Issued after id) :
    after.Drawn id := by
  obtain ⟨n, -, hlt, rfl⟩ := h
  exact ⟨n, hlt, rfl⟩

/-- An id that is new was never drawn before, if ids do not repeat. -/
theorem IdSource.Issued.not_drawn {before after : IdSource} {id : String}
    (h : before.Issued after id) (hext : before.Extends after)
    (hinjective : Function.Injective after.name) : ¬ before.Drawn id := by
  rintro ⟨n, hlt, heq⟩
  obtain ⟨n', hle, -, heq'⟩ := h
  rw [heq', hext.name.symm] at heq
  exact absurd (hinjective heq) (by omega)

/-! ### Endings -/

variable {σ α β : Type}

/-- `Ends backend program world trace value world'`: run in `world`, with some
calls stopped, the program may end with `value` in `world'`, its calls as in
`trace`. -/
inductive Program.Ends (backend : Backend σ) :
    Program α → World σ → List Attempt → α → World σ → Prop
  | done {value : α} {world : World σ} : Ends backend (.done value) world [] value world
  | freshId {next : String → Program α} {world world' : World σ} {trace : List Attempt} {value : α}
      (h : Ends backend (next world.ids.next) { world with ids := world.ids.rest } trace value
        world') :
      Ends backend (.freshId next) world trace value world'
  | now {next : Int64 → Program α} {world world' : World σ} {trace : List Attempt} {value : α}
      (h : Ends backend (next world.clock) world trace value world') :
      Ends backend (.now next) world trace value world'
  /-- The call is made. -/
  | made {c : Call} {next : Except StoreError c.Answer → Program α} {world world' : World σ}
      {trace : List Attempt} {value : α}
      (h : Ends backend (next (backend.perform c world.store).1)
        { world with store := (backend.perform c world.store).2 } trace value world') :
      Ends backend (.call c next) world (⟨c, none⟩ :: trace) value world'
  /-- The call is stopped. -/
  | stopped {c : Call} {next : Except StoreError c.Answer → Program α} {world world' : World σ}
      {trace : List Attempt} {value : α} (error : StoreError)
      (h : Ends backend (next (.error error)) world trace value world') :
      Ends backend (.call c next) world (⟨c, some error⟩ :: trace) value world'

/-- The world in memory that a world with storage of either sort shows. -/
def World.contents (world : World Store) : World Memory :=
  { store := world.store.contents, ids := world.ids, clock := world.clock }

namespace Program

variable {backend : Backend σ} {program : Program α} {world world' world'' : World σ}
  {trace : List Attempt} {value : α}

/-- A program draws ids and moves no clock. -/
theorem Ends.extends (h : program.Ends backend world trace value world') :
    world.ids.Extends world'.ids ∧ world'.clock = world.clock := by
  induction h with
  | done => exact ⟨.refl _, rfl⟩
  | @freshId next world _ _ _ _ ih => exact ⟨world.ids.extends_rest.trans ih.1, ih.2⟩
  | now _ ih => exact ih
  | made _ ih => exact ih
  | stopped _ _ ih => exact ih

/-- **An ending of a sequence is an ending of its first part and one of the second.** -/
theorem ends_bind {f : α → Program β} {value : β}
    (h : (program.bind f).Ends backend world trace value world'') :
    ∃ first world' trace₁ trace₂, program.Ends backend world trace₁ first world' ∧
      (f first).Ends backend world' trace₂ value world'' ∧ trace = trace₁ ++ trace₂ := by
  induction program generalizing world trace with
  | done first => exact ⟨first, world, [], trace, .done, h, rfl⟩
  | freshId next ih =>
    cases h with
    | freshId h =>
      obtain ⟨first, world', trace₁, trace₂, hfirst, hrest, rfl⟩ := ih _ h
      exact ⟨first, world', trace₁, trace₂, .freshId hfirst, hrest, rfl⟩
  | now next ih =>
    cases h with
    | now h =>
      obtain ⟨first, world', trace₁, trace₂, hfirst, hrest, rfl⟩ := ih _ h
      exact ⟨first, world', trace₁, trace₂, .now hfirst, hrest, rfl⟩
  | call c next ih =>
    cases h with
    | made h =>
      obtain ⟨first, world', trace₁, trace₂, hfirst, hrest, rfl⟩ := ih _ h
      exact ⟨first, world', ⟨c, none⟩ :: trace₁, trace₂, .made hfirst, hrest, rfl⟩
    | stopped error h =>
      obtain ⟨first, world', trace₁, trace₂, hfirst, hrest, rfl⟩ := ih _ h
      exact ⟨first, world', ⟨c, some error⟩ :: trace₁, trace₂, .stopped error hfirst, hrest, rfl⟩

/-! ### Endings without stops -/

/-- A run is an ending without stops. -/
theorem ends_run (backend : Backend σ) (program : Program α) (world : World σ) :
    ∃ trace, stops trace = 0 ∧
      program.Ends backend world trace (program.run backend world).1
        (program.run backend world).2 := by
  induction program generalizing world with
  | done value => exact ⟨[], rfl, .done⟩
  | freshId next ih =>
    obtain ⟨trace, hstops, hends⟩ := ih world.ids.next { world with ids := world.ids.rest }
    exact ⟨trace, hstops, .freshId hends⟩
  | now next ih =>
    obtain ⟨trace, hstops, hends⟩ := ih world.clock world
    exact ⟨trace, hstops, .now hends⟩
  | call c next ih =>
    obtain ⟨trace, hstops, hends⟩ := ih (backend.perform c world.store).1
      { world with store := (backend.perform c world.store).2 }
    exact ⟨⟨c, none⟩ :: trace, hstops, .made hends⟩

/-- An ending without stops is the run. -/
theorem run_of_ends (h : program.Ends backend world trace value world') (hstops : stops trace = 0) :
    program.run backend world = (value, world') := by
  induction h with
  | done => rfl
  | freshId _ ih => exact ih hstops
  | now _ ih => exact ih hstops
  | made _ ih => exact ih hstops
  | stopped _ _ _ =>
    -- a stop counts, and there is none
    rw [stops, List.countP_cons_of_pos rfl] at hstops
    omega

/-! ### Endings, computed -/

/-- Run a program and stop some of its calls: what stands first stops the first call, or lets it
through, and so on. -/
def runStopping (backend : Backend σ) :
    Program α → List (Option StoreError) → World σ → α × List Attempt × World σ
  | .done value, _, world => (value, [], world)
  | .freshId next, faults, world =>
    (next world.ids.next).runStopping backend faults { world with ids := world.ids.rest }
  | .now next, faults, world => (next world.clock).runStopping backend faults world
  | .call c next, some error :: faults, world =>
    let (value, trace, world') := (next (.error error)).runStopping backend faults world
    (value, ⟨c, some error⟩ :: trace, world')
  | .call c next, faults, world =>
    let (answer, store) := backend.perform c world.store
    let (value, trace, world') :=
      (next answer).runStopping backend faults.tail { world with store }
    (value, ⟨c, none⟩ :: trace, world')

/-- A run with stops is an ending. -/
theorem ends_runStopping (backend : Backend σ) (program : Program α)
    (faults : List (Option StoreError)) (world : World σ) :
    program.Ends backend world (program.runStopping backend faults world).2.1
      (program.runStopping backend faults world).1
      (program.runStopping backend faults world).2.2 := by
  induction program generalizing faults world with
  | done value => exact .done
  | freshId next ih => exact .freshId (ih _ _ _)
  | now next ih => exact .now (ih _ _ _)
  | call c next ih =>
    match faults with
    | some error :: faults => exact .stopped error (ih _ _ _)
    | none :: faults => exact .made (ih _ _ _)
    | [] => exact .made (ih _ _ _)

/-- No more calls are stopped than are given. -/
theorem stops_runStopping_le (backend : Backend σ) (program : Program α)
    (faults : List (Option StoreError)) (world : World σ) :
    stops (program.runStopping backend faults world).2.1 ≤ faults.countP Option.isSome := by
  induction program generalizing faults world with
  | done value => exact Nat.zero_le _
  | freshId next ih => exact ih _ _ _
  | now next ih => exact ih _ _ _
  | call c next ih =>
    match faults with
    | some error :: faults =>
      have hrest := ih (.error error) faults world
      rw [runStopping, stops, List.countP_cons_of_pos rfl, List.countP_cons_of_pos rfl]
      exact Nat.succ_le_succ hrest
    | none :: faults =>
      rw [runStopping, stops, List.countP_cons_of_neg (by nofun), List.countP_cons_of_neg (by nofun)]
      · exact ih _ faults _
      · nofun
    | [] =>
      rw [runStopping, stops, List.countP_cons_of_neg (by nofun)]
      · exact ih _ [] _
      · nofun

/-- Every ending is a run with the stops of its trace. -/
theorem Ends.runStopping_eq (h : program.Ends backend world trace value world') :
    program.runStopping backend (trace.map Attempt.fault) world = (value, trace, world') := by
  induction h with
  | done => rfl
  | freshId _ ih => exact ih
  | now _ ih => exact ih
  | @made c _ _ _ _ _ _ ih =>
    rw [List.map_cons, runStopping, List.tail_cons]
    · dsimp only
      rw [ih]
    · exact nofun
  | stopped error _ ih => rw [List.map_cons, runStopping, ih]

/-! ### Faults are stops -/

/-- **What faults do to a program is one way for it to end.** -/
theorem ends_faulty (backend : Backend σ) (program : Program α) (world : World (List Fault × σ)) :
    ∃ trace, program.Ends backend
      { store := world.store.2, ids := world.ids, clock := world.clock } trace
      (program.run backend.faulty world).1
      { store := (program.run backend.faulty world).2.store.2
        ids := (program.run backend.faulty world).2.ids
        clock := (program.run backend.faulty world).2.clock } := by
  induction program generalizing world with
  | done value => exact ⟨[], .done⟩
  | freshId next ih =>
    obtain ⟨trace, hends⟩ := ih world.ids.next { world with ids := world.ids.rest }
    exact ⟨trace, .freshId hends⟩
  | now next ih =>
    obtain ⟨trace, hends⟩ := ih world.clock world
    exact ⟨trace, .now hends⟩
  | call c next ih =>
    rw [run]
    dsimp only [Backend.faulty]
    -- a fault stops the call, or lets it through and waits for another
    rcases e : Fault.meet world.store.1 c with ⟨- | error, faults⟩
    · obtain ⟨trace, hends⟩ := ih (backend.perform c world.store.2).1
        { world with store := (faults, (backend.perform c world.store.2).2) }
      exact ⟨⟨c, none⟩ :: trace, .made hends⟩
    · obtain ⟨trace, hends⟩ := ih (.error error) { world with store := (faults, world.store.2) }
      exact ⟨⟨c, some error⟩ :: trace, .stopped error hends⟩

/-! ### Storage of either sort -/

/-- **A program over storage of either sort ends as it does over memory with
the same contents**, and what it leaves can be read again. -/
theorem ends_contents {world world' : World Store}
    (h : program.Ends .store world trace value world') (hfaithful : world.store.Faithful) :
    program.Ends .memory world.contents trace value world'.contents ∧
      world'.store.Faithful := by
  induction h with
  | done => exact ⟨.done, hfaithful⟩
  | freshId _ ih =>
    obtain ⟨hends, hfaithful'⟩ := ih hfaithful
    exact ⟨.freshId hends, hfaithful'⟩
  | now _ ih =>
    obtain ⟨hends, hfaithful'⟩ := ih hfaithful
    exact ⟨.now hends, hfaithful'⟩
  | @made c next world _ _ _ _ ih =>
    obtain ⟨hanswer, hcontents, hafter⟩ := hfaithful.perform c
    obtain ⟨hends, hfaithful'⟩ := ih hafter
    refine ⟨.made ?_, hfaithful'⟩
    -- the same call is made of memory, where it is answered alike
    show (next (world.store.contents.perform c).1).Ends .memory
      { store := (world.store.contents.perform c).2, ids := world.ids, clock := world.clock } _ _ _
    rw [← hanswer, ← hcontents]
    exact hends
  | stopped error _ ih =>
    obtain ⟨hends, hfaithful'⟩ := ih hfaithful
    exact ⟨.stopped error hends, hfaithful'⟩

/-- A run over storage of either sort is a run over memory with the same contents. -/
theorem run_contents (program : Program α) {world : World Store}
    (hfaithful : world.store.Faithful) :
    (program.run .store world).1 = (program.run .memory world.contents).1 ∧
      (program.run .store world).2.contents = (program.run .memory world.contents).2 ∧
      (program.run .store world).2.store.Faithful := by
  obtain ⟨trace, hstops, hends⟩ := ends_run .store program world
  obtain ⟨hmemory, hafter⟩ := ends_contents hends hfaithful
  -- a run has no stops, and without stops there is one way to end
  have hrun := run_of_ends hmemory hstops
  exact ⟨by rw [hrun], by rw [hrun], hafter⟩

end Program

/-! ### Procedures -/

namespace Procedure

variable {backend : Backend σ} {world world' world'' : World σ} {trace : List Attempt}

/-- An ending of a procedure. -/
def Ends (backend : Backend σ) (procedure : Procedure α) (world : World σ)
    (trace : List Attempt) (result : Except RegistryError α) (world' : World σ) : Prop :=
  Program.Ends backend (ExceptT.run procedure) world trace result world'

/-- A run is an ending without stops. -/
theorem ends_runWith (backend : Backend σ) (procedure : Procedure α) (world : World σ) :
    ∃ trace, stops trace = 0 ∧ Ends backend procedure world trace
      (procedure.runWith backend world).1 (procedure.runWith backend world).2 :=
  Program.ends_run backend procedure.run world

/-- **A sequence fails in its first part, or goes on with the second.** -/
theorem ends_bind {procedure : Procedure α} {f : α → Procedure β} {result : Except RegistryError β}
    (h : Ends backend (procedure >>= f) world trace result world'') :
    (∃ error, Ends backend procedure world trace (.error error) world'' ∧ result = .error error) ∨
      ∃ first world' trace₁ trace₂, Ends backend procedure world trace₁ (.ok first) world' ∧
        Ends backend (f first) world' trace₂ result world'' ∧ trace = trace₁ ++ trace₂ := by
  rw [Ends, ExceptT.run_bind, Program.bind_eq] at h
  obtain ⟨first, world', trace₁, trace₂, hfirst, hrest, rfl⟩ := Program.ends_bind h
  cases first with
  | error error =>
    cases hrest
    refine Or.inl ⟨error, ?_, rfl⟩
    rwa [List.append_nil]
  | ok first => exact Or.inr ⟨first, world', trace₁, trace₂, hfirst, hrest, rfl⟩

/-- A sequence that succeeds succeeded in both parts. -/
theorem ends_bind_ok {procedure : Procedure α} {f : α → Procedure β} {value : β}
    (h : Ends backend (procedure >>= f) world trace (.ok value) world'') :
    ∃ first world' trace₁ trace₂, Ends backend procedure world trace₁ (.ok first) world' ∧
      Ends backend (f first) world' trace₂ (.ok value) world'' ∧ trace = trace₁ ++ trace₂ := by
  rcases ends_bind h with ⟨error, -, hok⟩ | hboth
  · cases hok
  · exact hboth

theorem ends_pure {value : α} {result : Except RegistryError α}
    (h : Ends backend (pure value) world trace result world') :
    trace = [] ∧ result = .ok value ∧ world' = world := by
  cases h
  exact ⟨rfl, rfl, rfl⟩

theorem ends_throw {error : RegistryError} {result : Except RegistryError α}
    (h : Ends backend (throw error) world trace result world') :
    trace = [] ∧ result = .error error ∧ world' = world := by
  cases h
  exact ⟨rfl, rfl, rfl⟩

theorem ends_check {value result : Except RegistryError α}
    (h : Ends backend (check value) world trace result world') :
    trace = [] ∧ result = value ∧ world' = world := by
  cases h
  exact ⟨rfl, rfl, rfl⟩

theorem ends_freshId {result : Except RegistryError String}
    (h : Ends backend freshId world trace result world') :
    trace = [] ∧ result = .ok world.ids.next ∧ world' = { world with ids := world.ids.rest } := by
  cases h with
  | freshId h =>
    cases h
    exact ⟨rfl, rfl, rfl⟩

theorem ends_now {result : Except RegistryError Int64}
    (h : Ends backend now world trace result world') :
    trace = [] ∧ result = .ok world.clock ∧ world' = world := by
  cases h with
  | now h =>
    cases h
    exact ⟨rfl, rfl, rfl⟩

/-- A call is stopped, or made. -/
theorem ends_attempt {call : Call}
    {result : Except RegistryError (Except StoreError call.Answer)}
    (h : Ends backend (attempt call) world trace result world') :
    (∃ error, trace = [⟨call, some error⟩] ∧ result = .ok (.error error) ∧ world' = world) ∨
      (trace = [⟨call, none⟩] ∧ result = .ok (backend.perform call world.store).1 ∧
        world' = { world with store := (backend.perform call world.store).2 }) := by
  cases h with
  | made h =>
    cases h
    exact Or.inr ⟨rfl, rfl, rfl⟩
  | stopped error h =>
    cases h
    exact Or.inl ⟨error, rfl, rfl, rfl⟩

theorem ends_perform {call : Call} {result : Except RegistryError call.Answer}
    (h : Ends backend (perform call) world trace result world') :
    (∃ error, trace = [⟨call, some error⟩] ∧ result = .error (.ofStore error) ∧ world' = world) ∨
      (trace = [⟨call, none⟩] ∧
        result = (backend.perform call world.store).1.mapError RegistryError.ofStore ∧
        world' = { world with store := (backend.perform call world.store).2 }) := by
  cases h with
  | made h =>
    cases h
    exact Or.inr ⟨rfl, rfl, rfl⟩
  | stopped error h =>
    cases h
    exact Or.inl ⟨error, rfl, rfl, rfl⟩

/-! ### Runs of procedures -/

/-- A run over storage of either sort comes to what it does over memory with the same contents. -/
theorem runWith_contents (procedure : Procedure α) {world : World Store}
    (hfaithful : world.store.Faithful) :
    (procedure.runWith .store world).1 = (procedure.runWith .memory world.contents).1 :=
  (Program.run_contents procedure.run hfaithful).1

/-- A procedure whose first part succeeds goes on with the second. -/
theorem runWith_bind_ok {procedure : Procedure α} {f : α → Procedure β} {value : α}
    (h : procedure.runWith backend world = (.ok value, world')) :
    (procedure >>= f).runWith backend world = (f value).runWith backend world' := by
  rw [runWith, ExceptT.run_bind, Program.bind_eq, Program.run_bind]
  rw [runWith] at h
  rw [h]
  rfl

/-- A procedure whose first part fails has failed. -/
theorem runWith_bind_error {procedure : Procedure α} {f : α → Procedure β} {error : RegistryError}
    (h : procedure.runWith backend world = (.error error, world')) :
    (procedure >>= f).runWith backend world = (.error error, world') := by
  rw [runWith, ExceptT.run_bind, Program.bind_eq, Program.run_bind]
  rw [runWith] at h
  rw [h]
  rfl

theorem runWith_attempt {call : Call} {answer : Except StoreError call.Answer} {store : σ}
    (h : backend.perform call world.store = (answer, store)) :
    (attempt call).runWith backend world = (.ok answer, { world with store }) := by
  show (Except.ok (backend.perform call world.store).1,
    { world with store := (backend.perform call world.store).2 }) = _
  rw [h]

theorem runWith_perform {call : Call} {answer : call.Answer} {store : σ}
    (h : backend.perform call world.store = (.ok answer, store)) :
    (perform call).runWith backend world = (.ok answer, { world with store }) := by
  show ((backend.perform call world.store).1.mapError RegistryError.ofStore,
    { world with store := (backend.perform call world.store).2 }) = _
  rw [h]
  rfl

theorem runWith_perform_error {call : Call} {error : StoreError} {store : σ}
    (h : backend.perform call world.store = (.error error, store)) :
    (perform call).runWith backend world = (.error (.ofStore error), { world with store }) := by
  show ((backend.perform call world.store).1.mapError RegistryError.ofStore,
    { world with store := (backend.perform call world.store).2 }) = _
  rw [h]
  rfl

end Procedure

end TenantRegistry
