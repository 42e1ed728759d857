/-
TenantRegistry/Proofs/RowChanges.lean

What becomes of one row.

`Effect` says what an operation does to storage as a whole.  Here it is read
for a single key: a row that is there after an operation was there before, or
the operation wrote it (`Effect.accounted`).  So a row that is there before and
after is the same, unless it was edited (`Effect.row_kept`), and a child that
is there only after is as the operation drafted it (`Effect.drafted`).  A
history of one row is then a matter of drafts and edits.
-/
import TenantRegistry.Proofs.Consistency

namespace TenantRegistry

variable {world world' : World Memory} {trace : List Attempt} {operation : Operation}
  {succeeded : Bool} {table : Table} {key : String}

/-- `Written world world' operation succeeded row`: a row that an operation wrote, with what was
under its key before. -/
inductive Written (world world' : World Memory) (operation : Operation) (succeeded : Bool) :
    {table : Table} → table.Row → Prop
  | edited {table : Table} {before after : table.Row} (accepted : succeeded = true)
      (present : world.store.row? table (table.key after) = some before)
      (edit : Edit world.store world.ids world'.ids operation table before after) :
      Written world world' operation succeeded after
  | drafted {table : Table} {row : table.Row} (kind : ChildKind) (of_kind : table = kind.table)
      (absent : world.store.row? table (table.key row) = none)
      (draft : Draft world.ids world'.ids operation kind (of_kind ▸ row : kind.table.Row)) :
      Written world world' operation succeeded row
  /-- An organization, an instance, or what comes with it. -/
  | aside {table : Table} {row : table.Row}
      (absent : world.store.row? table (table.key row) = none)
      (of_no_draft : table.Aside) :
      Written world world' operation succeeded row

/-- `Accounted world world' operation succeeded memory`: every row of `memory` was there before an
operation, or the operation wrote it. -/
def Accounted (world world' : World Memory) (operation : Operation) (succeeded : Bool)
    (memory : Memory) : Prop :=
  ∀ ⦃table : Table⦄ ⦃key : String⦄ ⦃row : table.Row⦄, memory.row? table key = some row →
    world.store.row? table key = some row ∨
      (table.key row = key ∧ Written world world' operation succeeded row)

namespace Accounted

variable {memory : Memory}

theorem start : Accounted world world' operation succeeded world.store :=
  fun _ _ _ hrow => Or.inl hrow

theorem put {row : table.Row} (h : Accounted world world' operation succeeded memory)
    (hwritten : Written world world' operation succeeded row) :
    Accounted world world' operation succeeded (memory.put table row) := by
  intro other key after hrow
  by_cases htable : other = table
  · subst htable
    rw [Memory.row?_put_self] at hrow
    split at hrow
    · next hkey =>
      cases hrow
      exact Or.inr ⟨hkey.symm, hwritten⟩
    · exact h hrow
  · rw [Memory.row?_put_of_ne _ _ htable] at hrow
    exact h hrow

theorem drop (h : Accounted world world' operation succeeded memory) (table : Table)
    (key : String) : Accounted world world' operation succeeded (memory.drop table key) :=
  fun _ _ _ hrow => h (Memory.row?_of_drop hrow)

theorem enter (h : Accounted world world' operation succeeded memory) (owner : String)
    (kind : ChildKind) (child : String) :
    Accounted world world' operation succeeded (memory.enter owner kind child) :=
  fun _ _ _ hrow => h hrow

theorem leave (h : Accounted world world' operation succeeded memory) (owner : String)
    (kind : ChildKind) (child : String) :
    Accounted world world' operation succeeded (memory.leave owner kind child) :=
  fun _ _ _ hrow => h hrow

end Accounted

/-- **A row that is there after an operation was there before, or the operation wrote it.** -/
theorem Effect.accounted (h : Effect world world' trace operation succeeded) :
    Accounted world world' operation succeeded world'.store := by
  have hstart : Accounted world world' operation succeeded world.store := .start
  cases h with
  | unchanged store => exact store ▸ hstart
  | founded organization _ absent store =>
    exact store ▸ hstart.put (.aside absent Table.aside_organizations)
  | edited before new _ present _ store edit => exact store ▸ hstart.put (.edited rfl present edit)
  | registered row _ new _ store draft =>
    exact store ▸ (hstart.put (.drafted _ rfl new.absent draft)).enter _ _ _
  | stored row _ new _ store draft => exact store ▸ hstart.put (.drafted _ rfl new.absent draft)
  | removed _ _ _ _ _ store => exact store ▸ (hstart.drop _ _).leave _ _ _
  | @removedInstance o i app copy given _ _ _ store =>
    rw [store]
    exact Memory.removed_induction ((hstart.drop .instances i).leave o .appInstance i)
      (fun ih => ih.drop _ _) (fun _ ih => ih.drop _ _) copy given
  | dropped _ _ _ _ _ _ store => exact store ▸ hstart.drop _ _
  | unlisted _ _ _ store => exact store ▸ hstart.leave _ _ _
  | launched app snapshot parameters new absent _ no_snapshot no_parameters store =>
    have hcopy : world.store.row? .snapshots snapshot.instanceId = none :=
      new.snapshot_key ▸ no_snapshot
    have hremains := ((hstart.put (.aside absent Table.aside_instances)).enter app.organizationId
      .appInstance app.instanceId).put (.aside hcopy Table.aside_snapshots)
    rw [store]
    cases parameters with
    | none => exact hremains
    | some given =>
      have hgiven : world.store.row? .parameters given.instanceId = none :=
        new.parameters_key given rfl ▸ no_parameters (Option.some_ne_none given)
      exact hremains.put (.aside hgiven Table.aside_parameters)
  | @remaining request app snapshot _ new row entry copy _ absent _ no_snapshot _ store =>
    have hrow : Accounted world world' (.addInstance request) false
        (if row then world.store.put .instances app else world.store) := by
      cases row with
      | false => exact hstart
      | true => exact hstart.put (.aside absent Table.aside_instances)
    have hentry : Accounted world world' (.addInstance request) false
        (world.store.remains app snapshot row entry false) := by
      cases entry with
      | false => exact hrow
      | true => exact hrow.enter app.organizationId .appInstance app.instanceId
    rw [store]
    cases copy with
    | false => exact hentry
    | true =>
      have hcopy : world.store.row? .snapshots snapshot.instanceId = none :=
        new.snapshot_key ▸ no_snapshot rfl
      exact hentry.put (.aside hcopy Table.aside_snapshots)

/-- **A row that is there before and after an operation is the same, unless the operation
succeeded in editing it.** -/
theorem Effect.row_kept (h : Effect world world' trace operation succeeded)
    {before after : table.Row} (hbefore : world.store.row? table key = some before)
    (hafter : world'.store.row? table key = some after) :
    after = before ∨ succeeded = true ∧
      Edit world.store world.ids world'.ids operation table before after := by
  rcases h.accounted hafter with hthere | ⟨rfl, hwritten⟩
  · exact Or.inl (Option.some.inj (hthere.symm.trans hbefore))
  · cases hwritten with
    | edited accepted present edit =>
      cases present.symm.trans hbefore
      exact Or.inr ⟨accepted, edit⟩
    | drafted _ _ absent => cases absent.symm.trans hbefore
    | aside absent => cases absent.symm.trans hbefore

/-- **A child that is there after an operation, and was not before, is as the operation drafted
it.**  Instances are not drafted but launched. -/
theorem Effect.drafted (h : Effect world world' trace operation succeeded) (kind : ChildKind)
    {after : kind.Row} (hkind : kind ≠ .appInstance)
    (hbefore : world.store.row? kind.table key = none)
    (hafter : world'.store.row? kind.table key = some after) :
    Draft world.ids world'.ids operation kind after := by
  rcases h.accounted hafter with hthere | ⟨rfl, hwritten⟩
  · cases hbefore.symm.trans hthere
  · cases hwritten with
    | edited _ present => cases hbefore.symm.trans present
    | drafted kind' of_kind _ draft =>
      obtain rfl := ChildKind.table_inj of_kind
      exact draft
    | aside _ of_no_draft => exact absurd rfl (of_no_draft kind hkind)

end TenantRegistry
