/-
TenantRegistry/Proofs/Looking.lean

Programs that only look.

Most of an operation looks: it validates the request, fetches rows, consults
the index, draws ids.  `Reads` says that a program makes no other calls, which
is seen from its text and not from its runs; however it ends, storage is as it
was (`Looked`).  An operation that starts by looking so either fails with
storage unchanged or goes on from the same storage (`Reads.split`).

What was seen is true: the last section says, for each way to look, what its
success means for the storage that it looked at.
-/
import TenantRegistry.Proofs.Ending

namespace TenantRegistry

/-! ### Programs without writes -/

/-- A call that only looks at storage. -/
def Call.Reads : Call → Prop
  | .get _ _ => True
  | .contains _ _ => True
  | .list _ => True
  | .hasChild _ _ _ => True
  | .listChildren _ _ => True
  | _ => False

/-- A call that only looks leaves storage as it is. -/
theorem Memory.perform_of_reads (memory : Memory) {call : Call} (h : call.Reads) :
    (memory.perform call).2 = memory := by
  cases call <;> first | rfl | exact h.elim

variable {α β : Type}

/-- A program all of whose calls look, whatever they answer. -/
inductive Program.Reads : Program α → Prop
  | done (value : α) : Reads (.done value)
  | freshId {next : String → Program α} (h : ∀ id, Reads (next id)) : Reads (.freshId next)
  | now {next : Int64 → Program α} (h : ∀ time, Reads (next time)) : Reads (.now next)
  | call {c : Call} {next : Except StoreError c.Answer → Program α} (hc : c.Reads)
      (h : ∀ answer, Reads (next answer)) : Reads (.call c next)

theorem Program.Reads.bind {program : Program α} {f : α → Program β} (h : program.Reads)
    (hf : ∀ value, (f value).Reads) : (program.bind f).Reads := by
  induction h with
  | done value => exact hf value
  | freshId _ ih => exact .freshId ih
  | now _ ih => exact .now ih
  | call hc _ ih => exact .call hc ih

/-- Between two worlds storage was looked at, and ids may have been drawn. -/
structure Looked (world : World Memory) (trace : List Attempt) (world' : World Memory) :
    Prop where
  store : world'.store = world.store
  ids : world.ids.Extends world'.ids
  calls : ∀ attempt ∈ trace, attempt.call.Reads

theorem Looked.refl (world : World Memory) : Looked world [] world :=
  ⟨rfl, .refl _, by simp⟩

theorem Looked.trans {world world' world'' : World Memory} {trace trace' : List Attempt}
    (h : Looked world trace world') (h' : Looked world' trace' world'') :
    Looked world (trace ++ trace') world'' where
  store := h'.store.trans h.store
  ids := h.ids.trans h'.ids
  calls := fun attempt hmem => (List.mem_append.mp hmem).elim (h.calls attempt) (h'.calls attempt)

/-- **However a program that only looks ends, storage is as it was.** -/
theorem Program.Reads.looked {program : Program α} (h : program.Reads) {world world' : World Memory}
    {trace : List Attempt} {value : α} (hends : program.Ends .memory world trace value world') :
    Looked world trace world' := by
  induction hends with
  | done => exact .refl _
  | @freshId _ world _ _ _ _ ih =>
    cases h with
    | freshId h =>
      have hlooked := ih (h _)
      exact ⟨hlooked.store, world.ids.extends_rest.trans hlooked.ids, hlooked.calls⟩
  | now _ ih => cases h with | now h => exact ih (h _)
  | made _ ih =>
    cases h with
    | call hc h =>
      have hlooked := ih (h _)
      have hstore := hlooked.store.trans (Memory.perform_of_reads _ hc)
      exact ⟨hstore, hlooked.ids, List.forall_mem_cons.mpr ⟨hc, hlooked.calls⟩⟩
  | stopped _ _ ih =>
    cases h with
    | call hc h =>
      have hlooked := ih (h _)
      exact ⟨hlooked.store, hlooked.ids, List.forall_mem_cons.mpr ⟨hc, hlooked.calls⟩⟩

namespace Procedure

/-- A procedure all of whose calls look. -/
def Reads (procedure : Procedure α) : Prop := Program.Reads (ExceptT.run procedure)

theorem Reads.bind {procedure : Procedure α} {f : α → Procedure β} (h : procedure.Reads)
    (hf : ∀ value, (f value).Reads) : (procedure >>= f).Reads := by
  rw [Reads, ExceptT.run_bind]
  refine Program.Reads.bind h fun result => ?_
  cases result with
  | ok value => exact hf value
  | error error => exact .done _

variable {world world' world'' : World Memory} {trace : List Attempt}

theorem Reads.looked {procedure : Procedure α} (h : procedure.Reads)
    {result : Except RegistryError α} (hends : procedure.Ends .memory world trace result world') :
    Looked world trace world' :=
  Program.Reads.looked h hends

/-- **An operation that starts by looking fails with storage unchanged, or goes
on from the same storage.** -/
theorem Reads.split {procedure : Procedure α} {f : α → Procedure β}
    {result : Except RegistryError β} (h : procedure.Reads)
    (hends : (procedure >>= f).Ends .memory world trace result world'') :
    ((∃ error, result = .error error) ∧ Looked world trace world'') ∨
      ∃ value world' trace₁ trace₂, procedure.Ends .memory world trace₁ (.ok value) world' ∧
        Looked world trace₁ world' ∧ (f value).Ends .memory world' trace₂ result world'' ∧
        trace = trace₁ ++ trace₂ := by
  rcases ends_bind hends with ⟨error, hfirst, rfl⟩ | ⟨value, world', trace₁, trace₂, hfirst, hrest, rfl⟩
  · exact Or.inl ⟨⟨error, rfl⟩, h.looked hfirst⟩
  · exact Or.inr ⟨value, world', trace₁, trace₂, hfirst, h.looked hfirst, hrest, rfl⟩

/-! ### Ways to look -/

theorem reads_pure (value : α) : (pure value : Procedure α).Reads := .done _

theorem reads_throw (error : RegistryError) : (throw error : Procedure α).Reads := .done _

theorem reads_check (result : Except RegistryError α) : (check result).Reads := .done _

theorem reads_validate (result : Except Violation Unit) : (validate result).Reads := .done _

theorem reads_freshId : freshId.Reads := .freshId fun _ => .done _

theorem reads_perform (call : Call) (h : call.Reads) : (perform call).Reads :=
  .call h fun _ => .done _

theorem reads_attempt (call : Call) (h : call.Reads) : (attempt call).Reads :=
  .call h fun _ => .done _

theorem reads_freshIds (count : Nat) : (freshIds count).Reads := by
  induction count with
  | zero => exact reads_pure _
  | succ count ih => exact reads_freshId.bind fun _ => ih.bind fun _ => reads_pure _

theorem reads_mapM {f : α → Procedure β} (h : ∀ x, (f x).Reads) (xs : List α) :
    (xs.mapM f).Reads := by
  induction xs with
  | nil =>
    rw [List.mapM_nil]
    exact reads_pure _
  | cons x xs ih =>
    rw [List.mapM_cons]
    exact (h x).bind fun _ => ih.bind fun _ => reads_pure _

end Procedure

open Procedure

theorem reads_requireOrganization (o : String) : (requireOrganization o).Reads := by
  refine (reads_perform (.contains .organizations o) trivial).bind fun found => ?_
  cases found
  · exact reads_throw _
  · exact reads_pure _

theorem reads_listByOwner (table : Table) (owner : String) : (listByOwner table owner).Reads :=
  (reads_perform (.list table) trivial).bind fun _ => reads_pure _

namespace ChildKind

variable (kind : ChildKind) (o c : String)

theorem reads_require : (kind.require o c).Reads := by
  refine (reads_perform (.hasChild o kind c) trivial).bind fun found => ?_
  cases found
  · exact reads_throw _
  · exact reads_pure _

theorem reads_checkOwner (row : kind.Row) : (kind.checkOwner o row).Reads := by
  rw [checkOwner]
  split
  · exact reads_pure _
  · exact reads_throw _

theorem reads_get : (kind.get o c).Reads :=
  (kind.reads_require o c).bind fun _ => (reads_perform (.get kind.table c) trivial).bind fun row =>
    (kind.reads_checkOwner o row).bind fun _ => reads_pure _

theorem reads_getAll (ids : List String) : (kind.getAll o ids).Reads := by
  induction ids with
  | nil => exact reads_pure _
  | cons id rest ih =>
    refine (reads_attempt (.get kind.table id) trivial).bind fun answer => ?_
    split
    · exact (kind.reads_checkOwner o _).bind fun _ => ih.bind fun _ => reads_pure _
    · exact ih
    · exact reads_throw _

theorem reads_list : (kind.list o).Reads :=
  (reads_perform (.listChildren o kind) trivial).bind fun _ => kind.reads_getAll o _

end ChildKind

/-! ### What was seen is there -/

namespace Procedure

variable {world world' : World Memory} {trace : List Attempt}

theorem ends_validate_ok {result : Except Violation Unit}
    (h : (validate result).Ends .memory world trace (.ok ()) world') : result = .ok () := by
  obtain ⟨-, hok, -⟩ := ends_check h
  cases result with
  | error violation => cases hok
  | ok value => rfl

/-- A call that succeeds was made. -/
theorem ends_perform_ok {call : Call} {answer : call.Answer}
    (h : (perform call).Ends .memory world trace (.ok answer) world') :
    (world.store.perform call).1 = .ok answer ∧ trace = [⟨call, none⟩] ∧
      world' = { world with store := (world.store.perform call).2 } := by
  rcases ends_perform h with ⟨error, -, hok, -⟩ | ⟨rfl, hok, rfl⟩
  · cases hok
  · refine ⟨?_, rfl, rfl⟩
    -- only an answer of storage that is no error becomes a success
    change Except.ok answer = (world.store.perform call).1.mapError RegistryError.ofStore at hok
    rcases e : (world.store.perform call).1 with error | found
    · rw [e] at hok
      cases hok
    · rw [e] at hok
      cases hok
      rfl

/-- A call that fails shows a failure of storage. -/
theorem ends_perform_error {call : Call} {error : RegistryError}
    (h : (perform call).Ends .memory world trace (.error error) world') :
    ∃ cause, error = .ofStore cause := by
  rcases ends_perform h with ⟨stop, -, herror, -⟩ | ⟨-, herror, -⟩
  · exact ⟨stop, Except.error.inj herror⟩
  · change Except.error error = (world.store.perform call).1.mapError RegistryError.ofStore at herror
    rcases e : (world.store.perform call).1 with cause | answer
    · rw [e] at herror
      exact ⟨cause, Except.error.inj herror⟩
    · rw [e] at herror
      cases herror

theorem ends_requireOrganization_ok {o : String}
    (h : (requireOrganization o).Ends .memory world trace (.ok ()) world') :
    (world.store.row? .organizations o).isSome = true := by
  obtain ⟨found, world₁, trace₁, trace₂, hfirst, hrest, -⟩ := ends_bind_ok h
  obtain ⟨hanswer, -, -⟩ := ends_perform_ok hfirst
  change Except.ok ((world.store.row? .organizations o).isSome) = Except.ok found at hanswer
  cases found
  · obtain ⟨-, hok, -⟩ := ends_throw hrest
    cases hok
  · exact Except.ok.inj hanswer

theorem ends_listByOwner_ok {table : Table} {owner : String} {rows : List table.Row}
    (h : (listByOwner table owner).Ends .memory world trace (.ok rows) world') :
    rows = (world.store.rows table).values.filter fun row => table.owner? row = some owner := by
  obtain ⟨found, world₁, trace₁, trace₂, hfirst, hrest, -⟩ := ends_bind_ok h
  obtain ⟨hanswer, -, -⟩ := ends_perform_ok hfirst
  obtain ⟨-, hok, -⟩ := ends_pure hrest
  cases hanswer
  exact Except.ok.inj hok

theorem ends_listChildren_ok {o : String} {kind : ChildKind} {ids : List String}
    (h : (perform (.listChildren o kind)).Ends .memory world trace (.ok ids) world') :
    ids = world.store.listedIds o kind := by
  obtain ⟨hanswer, -, -⟩ := ends_perform_ok h
  change world.store.listChildren o kind = .ok ids at hanswer
  rw [Memory.listChildren_eq] at hanswer
  split at hanswer
  · exact (Except.ok.inj hanswer).symm
  · cases hanswer

theorem ends_get_ok {table : Table} {key : String} {row : table.Row}
    (h : (perform (.get table key)).Ends .memory world trace (.ok row) world') :
    world.store.row? table key = some row := by
  obtain ⟨hanswer, -, -⟩ := ends_perform_ok h
  rw [Memory.perform_get] at hanswer
  rcases e : world.store.row? table key with - | found
  · rw [e] at hanswer
    cases hanswer
  · rw [e] at hanswer
    cases hanswer
    rfl

end Procedure

/-- What an organization fetched: a row that it lists, and that it owns. -/
structure Memory.Fetched (memory : Memory) (kind : ChildKind) (organizationId childId : String)
    (row : kind.Row) : Prop where
  listed : memory.hasChild organizationId kind childId = true
  present : memory.row? kind.table childId = some row
  owner : kind.table.owner? row = some organizationId

namespace ChildKind

variable {kind : ChildKind} {o c : String} {world world' : World Memory} {trace : List Attempt}

theorem ends_require_ok (h : (kind.require o c).Ends .memory world trace (.ok ()) world') :
    world.store.hasChild o kind c = true := by
  obtain ⟨found, world₁, trace₁, trace₂, hfirst, hrest, -⟩ := ends_bind_ok h
  obtain ⟨hanswer, -, -⟩ := ends_perform_ok hfirst
  change Except.ok (world.store.hasChild o kind c) = Except.ok found at hanswer
  cases found
  · obtain ⟨-, hok, -⟩ := ends_throw hrest
    cases hok
  · exact Except.ok.inj hanswer

theorem ends_checkOwner_ok {row : kind.Row}
    (h : (kind.checkOwner o row).Ends .memory world trace (.ok ()) world') :
    kind.table.owner? row = some o := by
  rw [checkOwner] at h
  split at h
  · next howner => exact howner
  · obtain ⟨-, hok, -⟩ := ends_throw h
    cases hok

/-- What an organization fetches it lists, and owns. -/
theorem ends_get_ok {row : kind.Row}
    (h : (kind.get o c).Ends .memory world trace (.ok row) world') :
    world.store.Fetched kind o c row := by
  rcases (kind.reads_require o c).split h with ⟨⟨_, hok⟩, -⟩ | ⟨_, w₁, _, _, hlisted, l₁, h, -⟩
  · cases hok
  rcases (reads_perform (.get kind.table c) trivial).split h with
    ⟨⟨_, hok⟩, -⟩ | ⟨found, w₂, _, _, hget, -, h, -⟩
  · cases hok
  rcases (kind.reads_checkOwner o found).split h with ⟨⟨_, hok⟩, -⟩ | ⟨_, w₃, _, _, howner, -, h, -⟩
  · cases hok
  obtain ⟨-, hok, -⟩ := ends_pure h
  cases hok
  -- the row was fetched after a look at the index, from the same storage
  have hrow := Procedure.ends_get_ok hget
  rw [l₁.store] at hrow
  exact ⟨ends_require_ok hlisted, hrow, ends_checkOwner_ok howner⟩

/-- What an organization requires it looks up in the index. -/
theorem require_calls {result : Except RegistryError Unit}
    (h : (kind.require o c).Ends .memory world trace result world') :
    ∃ fault, trace = [⟨.hasChild o kind c, fault⟩] := by
  rcases ends_bind h with ⟨error, hlook, -⟩ | ⟨found, w, t, t', hlook, hrest, rfl⟩
  · rcases ends_perform hlook with ⟨error, rfl, -, -⟩ | ⟨rfl, -, -⟩
    · exact ⟨some error, rfl⟩
    · exact ⟨none, rfl⟩
  · obtain ⟨-, rfl, -⟩ := ends_perform_ok hlook
    cases found
    · obtain ⟨rfl, -, -⟩ := ends_throw hrest
      exact ⟨none, rfl⟩
    · obtain ⟨rfl, -, -⟩ := ends_pure hrest
      exact ⟨none, rfl⟩

/-- **An organization that reads a row of its own fetches it.** -/
theorem ends_get_of_read (kind : ChildKind) {result : Except RegistryError kind.Row} {row : kind.Row}
    (h : (kind.get o c).Ends .memory world trace result world')
    (hread : (⟨.get kind.table c, none⟩ : Attempt) ∈ trace)
    (hrow : world.store.row? kind.table c = some row)
    (howner : kind.table.owner? row = some o) : result = .ok row := by
  -- the look into the index is another call
  rcases ends_bind h with ⟨error, hrequire, -⟩ | ⟨_, w₁, t₁, t₂, hrequire, hrest, rfl⟩
  · obtain ⟨fault, rfl⟩ := require_calls hrequire
    cases List.mem_singleton.mp hread
  have hread : (⟨.get kind.table c, none⟩ : Attempt) ∈ t₂ := by
    obtain ⟨fault, rfl⟩ := require_calls hrequire
    rcases List.mem_append.mp hread with hlook | hlater
    · cases List.mem_singleton.mp hlook
    · exact hlater
  have hanswer : (w₁.store.perform (.get kind.table c)).1 = .ok row := by
    rw [((kind.reads_require o c).looked hrequire).store, Memory.perform_get, hrow]
    rfl
  rcases ends_bind hrest with ⟨error, hget, -⟩ | ⟨found, w₂, t₃, t₄, hget, hrest, -⟩
  · rcases ends_perform hget with ⟨stop, rfl, -, -⟩ | ⟨-, herror, -⟩
    · cases List.mem_singleton.mp hread
    · change Except.error error =
        (w₁.store.perform (.get kind.table c)).1.mapError RegistryError.ofStore at herror
      rw [hanswer] at herror
      cases herror
  obtain ⟨hfound, -, -⟩ := ends_perform_ok hget
  obtain rfl : found = row := Except.ok.inj (hfound.symm.trans hanswer)
  rw [checkOwner, if_pos howner] at hrest
  rcases ends_bind hrest with ⟨error, hcheck, -⟩ | ⟨_, _, _, _, -, hrest, -⟩
  · cases (ends_pure hcheck).2.1
  · exact (ends_pure hrest).2.1

end ChildKind

end TenantRegistry
