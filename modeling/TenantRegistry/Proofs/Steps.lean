/-
TenantRegistry/Proofs/Steps.lean

What happens to a registry, step by step.

A step is an operation, or a call that others make on the inventory, the tables
that no operation writes (`Step`).  An operation has a time of its own and ends
before the next one begins, and any of its calls may be stopped.

A `Run` is any number of steps.  Runs differ in the steps that they admit and in
what they record of each, and both is a matter of the relation that a run is of.
What every such step keeps is kept by a run (`Run.keeps`); a run is followed by
another (`Run.append`), and is one of other steps as well (`Run.exists_run`).

`World.after` and `World.afterAll` are what operations without stops lead to.
-/
import TenantRegistry.Proofs.Consistency
import TenantRegistry.Proofs.Operations

namespace TenantRegistry

/-! ### Operations without stops -/

/-- The world at another time. -/
def World.at {σ : Type} (world : World σ) (time : Int64) : World σ := { world with clock := time }

/-- The world after an operation at some time. -/
def World.after (world : World Store) (operation : Operation) (time : Int64) : World Store :=
  (operation.procedure.runWith .store (world.at time)).2

/-- The world after operations, one after another. -/
def World.afterAll (world : World Store) (operations : List (Operation × Int64)) : World Store :=
  operations.foldl (fun world step => world.after step.1 step.2) world

theorem World.afterAll_append (world : World Store) (operations : List (Operation × Int64))
    (step : Operation × Int64) :
    world.afterAll (operations ++ [step]) = (world.afterAll operations).after step.1 step.2 :=
  List.foldl_concat _ _ _ _

/-- What every operation without stops keeps is kept by a list of them. -/
theorem World.afterAll_induction {motive : World Store → Prop} {world : World Store}
    (start : motive world)
    (after : ∀ ⦃world⦄ operation time, motive world → motive (world.after operation time))
    (operations : List (Operation × Int64)) : motive (world.afterAll operations) := by
  induction operations generalizing world with
  | nil => exact start
  | cons step rest ih => exact ih (after step.1 step.2 start)

/-! ### The inventory -/

/-- The tables that no operation writes. -/
def Table.Inventory : Table → Prop
  | .deviceGroups | .devices | .assets | .accounts | .projects => True
  | _ => False

/-- The tables of the inventory are not those of the registry. -/
theorem Table.Inventory.ne {table other : Table} (h : table.Inventory)
    (hother : ¬ other.Inventory) : other ≠ table := by
  rintro rfl
  exact hother h

theorem ChildKind.not_inventory (kind : ChildKind) : ¬ kind.table.Inventory := by
  cases kind <;> exact id

/-- A call that writes a row of the inventory, or deletes one. -/
def Call.OnInventory : Call → Prop
  | .add table _ => table.Inventory
  | .update table _ => table.Inventory
  | .replace table _ _ => table.Inventory
  | .remove table _ => table.Inventory
  | _ => False

/-- What is put by a call on the inventory is put into the inventory. -/
theorem Call.OnInventory.inventory {call : Call} (h : call.OnInventory) {table : Table}
    {row : table.Row} (hputs : call.Puts table row) : table.Inventory := by
  cases hputs <;> exact h

/-- A call on the inventory leaves all other tables alone, and the index. -/
theorem Call.OnInventory.frame {call : Call} (h : call.OnInventory) (memory : Memory) :
    (∀ table : Table, ¬ table.Inventory → ∀ key,
      (memory.perform call).2.row? table key = memory.row? table key) ∧
      (memory.perform call).2.children = memory.children := by
  refine Memory.perform_induction
    (motive := fun after => (∀ table : Table, ¬ table.Inventory → ∀ key,
      after.row? table key = memory.row? table key) ∧ after.children = memory.children)
    ⟨fun _ _ _ => rfl, rfl⟩ (fun {table row} hputs => ?put) (fun {table key} hcall => ?drop)
    (fun hcall => ?enter) fun hcall => ?leave
  case put =>
    have htable := h.inventory hputs
    exact ⟨fun other hother => memory.row?_put_of_ne row (htable.ne hother), rfl⟩
  case drop =>
    subst hcall
    have htable : table.Inventory := h
    exact ⟨fun other hother => memory.row?_drop_of_ne key (htable.ne hother), rfl⟩
  case enter =>
    subst hcall
    exact h.elim
  case leave =>
    subst hcall
    exact h.elim

/-! ### Steps -/

/-- An operation as it went: what was done, how its calls went, and whether it succeeded. -/
structure Event where
  operation : Operation
  trace : List Attempt
  succeeded : Bool

/-- What happens in one step. -/
inductive Happening where
  /-- An operation of the registry. -/
  | operation (event : Event)
  /-- A call that others make on the inventory. -/
  | inventory (call : Call)

/-- `Step world happening world'`: what happens leads from one state of a registry to the next. -/
inductive Step : World Store → Happening → World Store → Prop
  | operation {world world' : World Store} {operation : Operation} {time : Int64}
      {trace : List Attempt} {result : Except RegistryError operation.Answer}
      (ends : operation.procedure.Ends .store (world.at time) trace result world') :
      Step world (.operation ⟨operation, trace, result.isOk⟩) world'
  | inventory {world : World Store} {call : Call} (aside : call.OnInventory) :
      Step world (.inventory call) { world with store := (world.store.perform call).2 }

/-- An operation over storage of either sort has an effect on its contents. -/
theorem Operation.effect_contents {operation : Operation} {world world' : World Store}
    {trace : List Attempt} {result : Except RegistryError operation.Answer}
    (h : operation.procedure.Ends .store world trace result world')
    (hfaithful : world.store.Faithful) (hkeyed : world.store.contents.Keyed) :
    Effect world.contents world'.contents trace operation result.isOk ∧ world'.store.Faithful := by
  obtain ⟨hends, hfaithful'⟩ := Program.ends_contents h hfaithful
  exact ⟨operation.effect hkeyed hends, hfaithful'⟩

/-- An operation without stops is a step. -/
theorem World.step_after (world : World Store) (operation : Operation) (time : Int64) :
    ∃ event : Event, event.operation = operation ∧ stops event.trace = 0 ∧
      Step world (.operation event) (world.after operation time) := by
  obtain ⟨trace, hstops, hends⟩ :=
    Procedure.ends_runWith .store operation.procedure (world.at time)
  exact ⟨_, rfl, hstops, .operation hends⟩

section Steps

variable {world world' : World Store} {happening : Happening}

/-- A step draws ids from the source that was there before it. -/
theorem Step.extends (h : Step world happening world') : world.ids.Extends world'.ids := by
  cases h with
  | operation ends => exact (Program.Ends.extends ends).1
  | inventory => exact .refl _

/-- An operation of a step has an effect on the contents of storage. -/
theorem Step.effect {event : Event} (h : Step world (.operation event) world')
    (hfaithful : world.store.Faithful) (hkeyed : world.store.contents.Keyed) :
    ∃ time, Effect (world.at time).contents world'.contents event.trace event.operation
      event.succeeded ∧ world'.store.Faithful := by
  cases h with
  | @operation _ _ time _ _ ends =>
    exact ⟨time, Operation.effect_contents ends hfaithful hkeyed⟩

/-- What is stored after a step can be read and stands under its own key, if this was so before. -/
theorem Step.faithful (h : Step world happening world')
    (hbefore : world.store.Faithful ∧ world.store.contents.Keyed) :
    world'.store.Faithful ∧ world'.store.contents.Keyed := by
  obtain ⟨hfaithful, hkeyed⟩ := hbefore
  cases happening with
  | operation event =>
    obtain ⟨time, heffect, hafter⟩ := h.effect hfaithful hkeyed
    exact ⟨hafter, heffect.keyed hkeyed⟩
  | inventory call =>
    obtain ⟨-, hcontents, hafter⟩ := hfaithful.perform call
    cases h with
    | inventory aside => exact ⟨hafter, hcontents ▸ hkeyed.perform call⟩

end Steps

/-! ### Runs of steps -/

/-- `Run step start records world`: steps led from `start` to `world`; the record of the latest
comes first. -/
inductive Run {ρ : Type} (step : World Store → ρ → World Store → Prop) (start : World Store) :
    List ρ → World Store → Prop
  | start : Run step start [] start
  | next {records : List ρ} {record : ρ} {world world' : World Store}
      (before : Run step start records world) (last : step world record world') :
      Run step start (record :: records) world'

namespace Run

variable {ρ ρ' : Type} {step : World Store → ρ → World Store → Prop}
  {step' : World Store → ρ' → World Store → Prop} {start world world' : World Store}
  {records records' : List ρ}

/-- **What every step keeps is kept by a run.** -/
@[elab_as_elim]
theorem keeps {motive : World Store → Prop} (h : Run step start records world)
    (hstart : motive start)
    (hstep : ∀ ⦃world record world'⦄, step world record world' → motive world → motive world') :
    motive world := by
  induction h with
  | start => exact hstart
  | next _ last ih => exact hstep last ih

/-- One run follows another. -/
theorem append (h : Run step start records world) (hlater : Run step world records' world') :
    Run step start (records' ++ records) world' := by
  induction hlater with
  | start => exact h
  | next _ last ih => exact ih.next last

/-- A run whose steps are steps of another sort is a run of that sort. -/
theorem exists_run (h : Run step start records world)
    (hstep : ∀ ⦃world record world'⦄, step world record world' →
      ∃ record', step' world record' world') :
    ∃ records', Run step' start records' world := by
  refine h.keeps ⟨[], .start⟩ ?_
  rintro world record world' last ⟨records', hbefore⟩
  obtain ⟨record', hlast⟩ := hstep last
  exact ⟨record' :: records', hbefore.next hlast⟩

/-- A run goes on with operations without stops, if these are steps of its sort. -/
theorem afterAll (h : Run step start records world)
    (hafter : ∀ world operation time, ∃ record, step world record (world.after operation time))
    (operations : List (Operation × Int64)) :
    ∃ records', Run step start records' (world.afterAll operations) := by
  refine World.afterAll_induction (motive := fun world => ∃ records', Run step start records' world)
    ⟨records, h⟩ ?_ operations
  rintro world operation time ⟨records', hbefore⟩
  obtain ⟨record, hlast⟩ := hafter world operation time
  exact ⟨record :: records', hbefore.next hlast⟩

end Run

section Runs

variable {start world : World Store} {happenings : List Happening}

/-- A run draws ids from the source that it began with. -/
theorem Run.extends (h : Run Step start happenings world) : start.ids.Extends world.ids :=
  h.keeps (.refl _) fun _ _ _ last hbefore => hbefore.trans last.extends

/-- All that is stored after a run can be read, and stands under its own key. -/
theorem Run.faithful (hfresh : start.store.Fresh) (h : Run Step start happenings world) :
    world.store.Faithful ∧ world.store.contents.Keyed :=
  h.keeps ⟨hfresh.faithful, hfresh.contents_eq ▸ Memory.keyed_empty⟩
    fun _ _ _ last => last.faithful

end Runs

end TenantRegistry
