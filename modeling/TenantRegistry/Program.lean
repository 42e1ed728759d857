/-
TenantRegistry/Program.lean

Operations as data.

What the registry does to storage is a `Program`: a tree that ends with a
value, or asks for a fresh id, for the time, or for the answer to one call,
and goes on with what it got.  A program says nothing about how calls are
answered.  `Program.run` runs it against a backend in a `World`, which also
holds the source of ids and the clock, so that one program can be run against
storage in memory, against a database, or against storage that fails.

A `Procedure` is a program that may end with an error of the registry.

Main results: programs form a lawful monad, and a run goes through a sequence
step by step (`run_bind`).
-/
import TenantRegistry.Storage.Call

namespace TenantRegistry

/-! ### Ids and time -/

/-- Where fresh ids come from: the `n`-th is `name n`. -/
structure IdSource where
  name : Nat → String
  /-- How many were drawn. -/
  drawn : Nat

namespace IdSource

/-- The ids `{stem}-1`, `{stem}-2`, and so on. -/
def sequential (stem : String) : IdSource := ⟨fun n => s!"{stem}-{n + 1}", 0⟩

/-- The next id. -/
def next (ids : IdSource) : String := ids.name ids.drawn

/-- The source after one id was drawn. -/
def rest (ids : IdSource) : IdSource := { ids with drawn := ids.drawn + 1 }

/-- The first `count` ids to come. -/
def take (ids : IdSource) : Nat → List String
  | 0 => []
  | count + 1 => ids.next :: ids.rest.take count

end IdSource

/-! ### Programs -/

/-- A sequence of calls to storage that ends with a value. -/
inductive Program (α : Type) where
  /-- End with a value. -/
  | done (value : α)
  /-- Draw a fresh id. -/
  | freshId (next : String → Program α)
  /-- Ask for the time. -/
  | now (next : Int64 → Program α)
  /-- Make a call. -/
  | call (c : Call) (next : Except StoreError c.Answer → Program α)

namespace Program

variable {α β γ : Type}

/-- Go on with a program that depends on the value of another. -/
def bind : Program α → (α → Program β) → Program β
  | .done value, f => f value
  | .freshId next, f => .freshId fun id => (next id).bind f
  | .now next, f => .now fun time => (next time).bind f
  | .call c next, f => .call c fun answer => (next answer).bind f

instance : Monad Program where
  pure := .done
  bind := bind

@[simp] theorem pure_eq (value : α) : (pure value : Program α) = .done value := rfl

@[simp] theorem bind_eq (program : Program α) (f : α → Program β) :
    program >>= f = program.bind f := rfl

@[simp] theorem bind_done (value : α) (f : α → Program β) :
    (Program.done value).bind f = f value := rfl

theorem bind_done_right (program : Program α) : program.bind .done = program := by
  induction program with
  | done value => rfl
  | freshId next ih => simp only [bind, ih]
  | now next ih => simp only [bind, ih]
  | call c next ih => simp only [bind, ih]

theorem bind_assoc (program : Program α) (f : α → Program β) (g : β → Program γ) :
    (program.bind f).bind g = program.bind fun value => (f value).bind g := by
  induction program with
  | done value => rfl
  | freshId next ih => simp only [bind, ih]
  | now next ih => simp only [bind, ih]
  | call c next ih => simp only [bind, ih]

instance : LawfulMonad Program :=
  LawfulMonad.mk' Program
    (fun program => bind_done_right program)
    (fun _ _ => rfl)
    (fun program f g => bind_assoc program f g)

end Program

/-! ### Running -/

/-- What a program runs in: a state of storage, a source of ids, and a clock. -/
structure World (σ : Type) where
  store : σ
  ids : IdSource
  clock : Int64

/-- Run a program against a backend. -/
def Program.run {σ α : Type} (backend : Backend σ) : Program α → World σ → α × World σ
  | .done value, world => (value, world)
  | .freshId next, world => (next world.ids.next).run backend { world with ids := world.ids.rest }
  | .now next, world => (next world.clock).run backend world
  | .call c next, world =>
    let (answer, store) := backend.perform c world.store
    (next answer).run backend { world with store }

/-- **A run goes through a sequence step by step.** -/
theorem Program.run_bind {σ α β : Type} (backend : Backend σ) (program : Program α)
    (f : α → Program β) (world : World σ) :
    (program.bind f).run backend world =
      (f (program.run backend world).1).run backend (program.run backend world).2 := by
  induction program generalizing world with
  | done value => rfl
  | freshId next ih => simp only [bind, run, ih]
  | now next ih => simp only [bind, run, ih]
  | call c next ih => simp only [bind, run, ih]

/-! ### Procedures -/

/-- A program that may end with an error of the registry. -/
abbrev Procedure (α : Type) : Type := ExceptT RegistryError Program α

namespace Procedure

/-- Draw a fresh id. -/
def freshId : Procedure String := ExceptT.lift (.freshId .done)

/-- Draw several fresh ids. -/
def freshIds : Nat → Procedure (List String)
  | 0 => return []
  | count + 1 => do
    let id ← freshId
    return id :: (← freshIds count)

/-- Ask for the time. -/
def now : Procedure Int64 := ExceptT.lift (.now .done)

/-- Make a call, and look at its answer even if it failed. -/
def attempt (call : Call) : Procedure (Except StoreError call.Answer) :=
  ExceptT.lift (.call call .done)

/-- Make a call; its failure is a failure of the procedure. -/
def perform (call : Call) : Procedure call.Answer :=
  ExceptT.mk (.call call fun answer => .done (answer.mapError RegistryError.ofStore))

/-- A step that fails or succeeds without storage. -/
def check {α : Type} (result : Except RegistryError α) : Procedure α := ExceptT.mk (.done result)

/-- Go on only if a request keeps its rules. -/
def validate (result : Except Violation Unit) : Procedure Unit :=
  check (result.mapError RegistryError.invalidArgument)

/-- Run a procedure against a backend. -/
def runWith {σ α : Type} (backend : Backend σ) (procedure : Procedure α) (world : World σ) :
    Except RegistryError α × World σ :=
  Program.run backend (ExceptT.run procedure) world

end Procedure

end TenantRegistry
