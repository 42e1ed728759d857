/-
TenantRegistry/Proofs/Runs.lean

Operations one after another.

What an operation without stops keeps is kept by a list of them
(`World.Sound.afterAll`), and so it is known in which states an operation may
find storage when one of its calls is stopped.

Six kinds of runs are told apart by their steps and by what is recorded of them.

* `Runs` are operations of which any calls may be stopped, with a record of how
  each of them went; `Stages` have a record of storage before and after each.
* `RunsWhile` are such operations after each of which something still holds.
* `Reached` is what any steps lead to from an empty registry.
* `Attained` is what steps lead to in which no operation is stopped, and
  `Settled` the same from an empty registry with plain ids, where what others do
  to the inventory is for organizations that are stored.

Main result: `leftover_afterAll`.
-/
import TenantRegistry.Proofs.Failures
import TenantRegistry.Proofs.Steps

namespace TenantRegistry

/-! ### Sources of ids -/

theorem plain_repr (n : Nat) : Plain n.repr := by
  intro hmem
  rw [Nat.toList_repr] at hmem
  exact absurd (Nat.isDigit_of_mem_toDigits (by decide) (by decide) hmem) (by decide)

/-- Ids in sequence are plain if what they start with is. -/
theorem IdSource.plain_sequential {stem : String} (h : Plain stem) (n : Nat) :
    Plain ((sequential stem).name n) := by
  show '/' ∉ (stem ++ "-" ++ (n + 1).repr).toList
  simp only [String.toList_append, List.mem_append, not_or]
  exact ⟨⟨h, by decide⟩, plain_repr (n + 1)⟩

/-- Ids in sequence do not repeat. -/
theorem IdSource.sequential_injective (stem : String) :
    Function.Injective (sequential stem).name := by
  intro n n' h
  have hrepr : stem ++ "-" ++ (n + 1).repr = stem ++ "-" ++ (n' + 1).repr := h
  -- what stands after the stem is the number, and digits are read back
  have hdigits : Nat.toDigits 10 (n + 1) = Nat.toDigits 10 (n' + 1) := by
    rw [← Nat.toList_repr, ← Nat.toList_repr, (String.append_right_inj _).mp hrepr]
  have hsucc := congrArg (Nat.ofDigitChars 10 · 0) hdigits
  simp only [Nat.ofDigitChars_ten_toDigits] at hsucc
  omega

/-! ### States without stops -/

/-- Storage of either sort whose places agree, in a world where ids are plain. -/
structure World.Sound (world : World Store) : Prop where
  faithful : world.store.Faithful
  consistent : Consistent world.store.contents
  plain : ∀ n, Plain (world.ids.name n)

theorem World.Sound.at {world : World Store} (h : world.Sound) (time : Int64) :
    (world.at time).Sound := ⟨h.faithful, h.consistent, h.plain⟩

/-- **An operation without stops leaves a sound world sound.** -/
theorem World.Sound.step {world world' : World Store} {event : Event} (h : world.Sound)
    (hstep : Step world (.operation event) world') (hstops : stops event.trace = 0) :
    world'.Sound := by
  -- the source of ids keeps its names
  have hplain : ∀ n, Plain (world'.ids.name n) := by
    rw [hstep.extends.name]
    exact h.plain
  obtain ⟨time, heffect, hfaithful⟩ := hstep.effect h.faithful h.consistent.keyed
  exact ⟨hfaithful, heffect.consistent hstops hplain h.consistent, hplain⟩

/-- **Operations without stops leave a sound world sound.** -/
theorem World.Sound.afterAll {world : World Store} (h : world.Sound)
    (operations : List (Operation × Int64)) : (world.afterAll operations).Sound := by
  refine World.afterAll_induction (motive := World.Sound) h ?_ operations
  intro world operation time hsound
  obtain ⟨event, -, hstops, hstep⟩ := world.step_after operation time
  exact hsound.step hstep hstops

/-- An empty registry with plain ids is sound. -/
theorem World.sound_of_fresh {world : World Store} (hfresh : world.store.Fresh)
    (hplain : ∀ n, Plain (world.ids.name n)) : world.Sound :=
  ⟨hfresh.faithful, hfresh.contents_eq ▸ .empty, hplain⟩

/-! ### One stopped call -/

/-- **An operation that fails leaves nothing but its `Leftover`**, whichever one of its calls is
stopped, if any, after operations without stops from an empty registry with plain ids. -/
theorem leftover_afterAll {start : World Store} (hfresh : start.store.Fresh)
    (hplain : ∀ n, Plain (start.ids.name n)) (operations : List (Operation × Int64))
    {operation : Operation} {time : Int64} {trace : List Attempt} {error : RegistryError}
    {world' : World Store}
    (h : operation.procedure.Ends .store ((start.afterAll operations).at time) trace
      (.error error) world') (hone : stops trace ≤ 1) :
    world'.store.Faithful ∧
      Leftover (start.afterAll operations).store.contents world'.store.contents trace
        operation := by
  have hsound := ((World.sound_of_fresh hfresh hplain).afterAll operations).at time
  obtain ⟨heffect, hfaithful⟩ :=
    Operation.effect_contents h hsound.faithful hsound.consistent.keyed
  exact ⟨hfaithful, heffect.leftover hone hsound.consistent⟩

/-- A user is removed, and the entry of the index stays. -/
theorem leftover_of_stopped_entry :
    let start : World Store :=
      { store := .memory .empty, ids := .sequential "id", clock := 0 }
    let operations : List (Operation × Int64) :=
      [(.addOrganization { (default : NewOrganization) with name := "acme" }, 1),
        (.addUser { organizationId := "id-1", email := "ann@acme", name := "Ann" }, 2)]
    let ended := (Operation.remove .user "id-1" "ann@acme").procedure.run.runStopping .store
      [none, none, some (.write "down")] ((start.afterAll operations).at 3)
    ended.1 = .error (.ofStore (.write "down")) ∧ stops ended.2.1 ≤ 1 ∧
      ended.2.2.store.Faithful ∧
      Leftover (start.afterAll operations).store.contents ended.2.2.store.contents ended.2.1
        (.remove .user "id-1" "ann@acme") := by
  intro start operations ended
  -- the third call is the one that deletes the entry
  have hfailed : ended.1 = .error (.ofStore (.write "down")) := by decide +kernel
  have hone : stops ended.2.1 ≤ 1 := by decide +kernel
  have hends : (Operation.remove .user "id-1" "ann@acme").procedure.Ends .store
      ((start.afterAll operations).at 3) ended.2.1 (.error (.ofStore (.write "down")))
      ended.2.2 := by
    rw [← hfailed]
    exact Program.ends_runStopping _ _ _ _
  exact ⟨hfailed, hone, leftover_afterAll (Or.inl rfl)
    (IdSource.plain_sequential (by decide)) operations hends hone⟩

/-! ### Runs with stops -/

/-- `Runs start events world`: operations with any calls stopped led from `start` to `world`; the
latest of the events comes first. -/
def Runs (start : World Store) : List Event → World Store → Prop :=
  Run (fun world event world' => Step world (.operation event) world') start

theorem Runs.start {world : World Store} : Runs world [] world := Run.start

section Runs

variable {start world world' : World Store} {events : List Event}

theorem Runs.step {operation : Operation} {time : Int64} {trace : List Attempt}
    {result : Except RegistryError operation.Answer} (before : Runs start events world)
    (ends : operation.procedure.Ends .store (world.at time) trace result world') :
    Runs start (⟨operation, trace, result.isOk⟩ :: events) world' :=
  Run.next before (.operation ends)

/-- A run is followed operation by operation. -/
@[induction_eliminator]
theorem Runs.induction {first : World Store}
    {motive : (events : List Event) → (world : World Store) → Runs first events world → Prop}
    (start : motive [] first .start)
    (step : ∀ {events : List Event} {world world' : World Store} {operation : Operation}
      {time : Int64} {trace : List Attempt} {result : Except RegistryError operation.Answer}
      (before : Runs first events world)
      (ends : operation.procedure.Ends .store (world.at time) trace result world'),
      motive events world before →
      motive (⟨operation, trace, result.isOk⟩ :: events) world' (before.step ends))
    {events : List Event} {world : World Store} (h : Runs first events world) :
    motive events world h := by
  refine Run.rec (motive := motive) start ?_ h
  intro events event world world' before last ih
  cases last with
  | operation ends => exact step before ends ih

/-- Operations are steps. -/
theorem Runs.steps (h : Runs start events world) : ∃ happenings, Run Step start happenings world :=
  Run.exists_run h fun _ event _ last => ⟨.operation event, last⟩

/-- A run draws ids from the source that it began with. -/
theorem Runs.extends (h : Runs start events world) : start.ids.Extends world.ids := by
  obtain ⟨happenings, hrun⟩ := h.steps
  exact hrun.extends

/-- All that is stored after a run can be read, and stands under its own key. -/
theorem Runs.faithful (hfresh : start.store.Fresh) (h : Runs start events world) :
    world.store.Faithful ∧ world.store.contents.Keyed := by
  obtain ⟨happenings, hrun⟩ := h.steps
  exact hrun.faithful hfresh

/-- Operations without stops are a run. -/
theorem Runs.afterAll (h : Runs start events world) (operations : List (Operation × Int64)) :
    ∃ events', Runs start events' (world.afterAll operations) := by
  refine Run.afterAll h (fun world operation time => ?_) operations
  obtain ⟨event, -, -, hstep⟩ := world.step_after operation time
  exact ⟨event, hstep⟩

/-- The same after operations without stops. -/
theorem World.faithful_afterAll (hfresh : start.store.Fresh)
    (operations : List (Operation × Int64)) :
    (start.afterAll operations).store.Faithful ∧
      (start.afterAll operations).store.contents.Keyed := by
  obtain ⟨events, hruns⟩ := Runs.start.afterAll operations
  exact hruns.faithful hfresh

end Runs

/-! ### Runs with given stops -/

/-- The world after operations at their times, of which the given calls are stopped. -/
def World.afterStopping (world : World Store)
    (steps : List (Operation × Int64 × List (Option StoreError))) : World Store :=
  steps.foldl
    (fun world step =>
      (step.1.procedure.run.runStopping .store step.2.2 (world.at step.2.1)).2.2)
    world

section AfterStopping

variable {start world : World Store} {events : List Event}

/-- Operations with the given stops are a run, of events of a sort if each of them is. -/
theorem Runs.afterStopping_of (sort : Event → Prop) (h : Runs start events world)
    (hevents : ∀ event ∈ events, sort event)
    (steps : List (Operation × Int64 × List (Option StoreError)))
    (hsteps : ∀ step ∈ steps, ∀ world : World Store,
      let ended := step.1.procedure.run.runStopping .store step.2.2 (world.at step.2.1)
      sort ⟨step.1, ended.2.1, ended.1.isOk⟩) :
    ∃ events', Runs start events' (world.afterStopping steps) ∧ ∀ event ∈ events', sort event := by
  induction steps generalizing world events with
  | nil => exact ⟨events, h, hevents⟩
  | cons step rest ih =>
    obtain ⟨hstep, hrest⟩ := List.forall_mem_cons.mp hsteps
    exact ih (h.step (Program.ends_runStopping .store step.1.procedure.run step.2.2
      (world.at step.2.1))) (List.forall_mem_cons.mpr ⟨hstep world, hevents⟩) hrest

/-- Operations with the given stops are a run. -/
theorem Runs.afterStopping (h : Runs start events world)
    (steps : List (Operation × Int64 × List (Option StoreError))) :
    ∃ events', Runs start events' (world.afterStopping steps) := by
  obtain ⟨events', hruns, -⟩ := h.afterStopping_of (fun _ => True) (fun _ _ => trivial) steps
    fun _ _ _ => trivial
  exact ⟨events', hruns⟩

/-- Operations with at most one stop each are a run with at most one stop each. -/
theorem Runs.afterStopping_once (h : Runs start events world)
    (hone : ∀ event ∈ events, stops event.trace ≤ 1)
    (steps : List (Operation × Int64 × List (Option StoreError)))
    (hsteps : ∀ step ∈ steps, step.2.2.countP Option.isSome ≤ 1) :
    ∃ events', Runs start events' (world.afterStopping steps) ∧
      ∀ event ∈ events', stops event.trace ≤ 1 := by
  refine h.afterStopping_of (fun event => stops event.trace ≤ 1) hone steps ?_
  intro step hmem world
  exact (Program.stops_runStopping_le .store step.1.procedure.run step.2.2
    (world.at step.2.1)).trans (hsteps step hmem)

end AfterStopping

/-! ### Runs with storage recorded -/

/-- An operation of a run, and storage before and after it. -/
structure Stage where
  operation : Operation
  succeeded : Bool
  before : Store
  after : Store

/-- `Stages start stages world`: operations with any calls stopped led from `start` to `world`; the
latest of the stages comes first. -/
def Stages (start : World Store) : List Stage → World Store → Prop :=
  Run (fun world stage world' => ∃ event, Step world (.operation event) world' ∧
    stage = ⟨event.operation, event.succeeded, world.store, world'.store⟩) start

theorem Stages.start {world : World Store} : Stages world [] world := Run.start

section Stages

variable {start world world' : World Store} {stages : List Stage}

theorem Stages.next {operation : Operation} {time : Int64} {trace : List Attempt}
    {result : Except RegistryError operation.Answer} (before : Stages start stages world)
    (ends : operation.procedure.Ends .store (world.at time) trace result world') :
    Stages start (⟨operation, result.isOk, world.store, world'.store⟩ :: stages) world' :=
  Run.next before ⟨_, .operation ends, rfl⟩

/-- Stages are of a run. -/
theorem Stages.runs (h : Stages start stages world) : ∃ events, Runs start events world :=
  Run.exists_run h fun _ _ _ ⟨event, hstep, _⟩ => ⟨event, hstep⟩

end Stages

/-! ### Runs that keep something -/

/-- `RunsWhile kept start world`: operations with any calls stopped led from `start` to `world`, and
what is to be kept held after each of them. -/
def RunsWhile (kept : World Store → Prop) (start world : World Store) : Prop :=
  ∃ events : List Event,
    Run (fun world event world' => Step world (.operation event) world' ∧ kept world') start
      events world

theorem RunsWhile.start {kept : World Store → Prop} {world : World Store} :
    RunsWhile kept world world := ⟨[], .start⟩

section RunsWhile

variable {kept : World Store → Prop} {start world : World Store}

/-- An operation without stops goes on with a run if it keeps what is to be kept. -/
theorem RunsWhile.after (h : RunsWhile kept start world) (operation : Operation) (time : Int64)
    (still : kept (world.after operation time)) :
    RunsWhile kept start (world.after operation time) := by
  obtain ⟨events, hruns⟩ := h
  obtain ⟨event, -, -, hstep⟩ := world.step_after operation time
  exact ⟨event :: events, hruns.next ⟨hstep, still⟩⟩

end RunsWhile

/-! ### States that are reached -/

/-- **What a registry comes to**, begun with nothing: its operations, with any calls stopped, and
what others do to the inventory. -/
def Reached (world : World Store) : Prop :=
  ∃ start happenings, start.store.Fresh ∧ Run Step start happenings world

section Reached

variable {start world : World Store}

theorem Reached.empty (fresh : world.store.Fresh) : Reached world := ⟨world, [], fresh, .start⟩

theorem Reached.inventory (call : Call) (before : Reached world) (aside : call.OnInventory) :
    Reached { world with store := (world.store.perform call).2 } := by
  obtain ⟨start, happenings, hfresh, hrun⟩ := before
  exact ⟨start, _, hfresh, hrun.next (.inventory aside)⟩

/-- A run of operations reaches what it leads to. -/
theorem Runs.reached {events : List Event} (hstart : Reached start) (h : Runs start events world) :
    Reached world := by
  obtain ⟨first, happenings, hfresh, hrun⟩ := hstart
  obtain ⟨later, hlater⟩ := h.steps
  exact ⟨first, _, hfresh, hrun.append hlater⟩

end Reached

/-! ### States that are reached without stops -/

/-- No call was stopped. -/
def Happening.Unstopped : Happening → Prop
  | operation event => stops event.trace = 0
  | inventory _ => True

/-- What others put into the inventory is for organizations that are stored. -/
def Happening.Owned (world : World Store) : Happening → Prop
  | operation _ => True
  | inventory call => ∀ {table row o}, call.Puts table row → table.owner? row = some o →
      (world.store.perform (.contains .organizations o)).1 = .ok true

/-- **What operations without stops lead to**, while others keep the inventory. -/
def Attained (start world : World Store) : Prop :=
  ∃ happenings,
    Run (fun world happening world' => Step world happening world' ∧ happening.Unstopped) start
      happenings world

theorem Attained.start {world : World Store} : Attained world world := ⟨[], .start⟩

section Attained

variable {start world : World Store}

theorem Attained.steps (h : Attained start world) :
    ∃ happenings, Run Step start happenings world := by
  obtain ⟨happenings, hrun⟩ := h
  exact hrun.exists_run fun _ happening _ last => ⟨happening, last.1⟩

/-- Ids are drawn from the source that was there at the start. -/
theorem Attained.extends (h : Attained start world) : start.ids.Extends world.ids := by
  obtain ⟨happenings, hrun⟩ := h.steps
  exact hrun.extends

theorem Attained.keyed (hfresh : start.store.Fresh) (h : Attained start world) :
    world.store.Faithful ∧ world.store.contents.Keyed := by
  obtain ⟨happenings, hrun⟩ := h.steps
  exact hrun.faithful hfresh

theorem Attained.afterAll (h : Attained start world) (operations : List (Operation × Int64)) :
    Attained start (world.afterAll operations) := by
  obtain ⟨happenings, hrun⟩ := h
  refine hrun.afterAll (fun world operation time => ?_) operations
  obtain ⟨event, -, hstops, hstep⟩ := world.step_after operation time
  exact ⟨.operation event, hstep, hstops⟩

end Attained

/-- **What a registry comes to without stops**, begun with nothing and with plain ids: its
operations, and what others do to the inventory of organizations that are stored. -/
def Settled (world : World Store) : Prop :=
  ∃ start happenings, start.store.Fresh ∧ (∀ n, Plain (start.ids.name n)) ∧
    Run (fun world happening world' => Step world happening world' ∧ happening.Unstopped ∧
      happening.Owned world) start happenings world

section Settled

variable {world : World Store}

theorem Settled.empty (fresh : world.store.Fresh) (plain : ∀ n, Plain (world.ids.name n)) :
    Settled world := ⟨world, [], fresh, plain, .start⟩

theorem Settled.afterAll (h : Settled world) (operations : List (Operation × Int64)) :
    Settled (world.afterAll operations) := by
  obtain ⟨start, happenings, hfresh, hplain, hrun⟩ := h
  have hafter := hrun.afterAll (fun world operation time => ?step) operations
  case step =>
    obtain ⟨event, -, hstops, hstep⟩ := world.step_after operation time
    exact ⟨.operation event, hstep, hstops, trivial⟩
  obtain ⟨happenings', hrun'⟩ := hafter
  exact ⟨start, happenings', hfresh, hplain, hrun'⟩

end Settled

end TenantRegistry
