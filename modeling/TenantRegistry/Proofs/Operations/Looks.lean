/-
TenantRegistry/Proofs/Operations/Looks.lean

What an operation does before it writes.

It looks at storage and draws ids.  This has no effect of its own, and so the
effect of an operation is that of what comes after (`Procedure.Reads.effect`);
only the ids that it draws have to be kept in mind (`effect_from`).
-/
import TenantRegistry.Proofs.Effect

namespace TenantRegistry

open Procedure

variable {world world' : World Memory} {trace trace₁ trace₂ : List Attempt}

/-! ### Looking has no effect -/

theorem Looked.no_index_write (h : Looked world trace world') : ¬ IndexWriteStopped trace := by
  rintro ⟨⟨call, fault⟩, hmem, -, hwrites⟩
  have hreads : call.Reads := h.calls _ hmem
  cases call <;> first | exact hwrites | exact hreads

theorem Looked.effect (h : Looked world trace world') {operation : Operation} {succeeded : Bool} :
    Effect world world' trace operation succeeded :=
  .unchanged h.store fun _ => h.no_index_write

theorem IndexWriteStopped.of_append (h : IndexWriteStopped (trace₁ ++ trace₂)) :
    IndexWriteStopped trace₁ ∨ IndexWriteStopped trace₂ := by
  obtain ⟨attempt, hmem, hstopped⟩ := h
  rcases List.mem_append.mp hmem with hmem | hmem
  · exact Or.inl ⟨attempt, hmem, hstopped⟩
  · exact Or.inr ⟨attempt, hmem, hstopped⟩

theorem IndexWriteStopped.append_left (h : IndexWriteStopped trace₂) :
    IndexWriteStopped (trace₁ ++ trace₂) := by
  obtain ⟨attempt, hmem, hstopped⟩ := h
  exact ⟨attempt, List.mem_append_right _ hmem, hstopped⟩

/-- A look and then a write to a table are no writes to the index. -/
theorem Looked.no_index_write_append (h : Looked world trace world') {call : Call}
    {fault : Option StoreError} (hcall : ¬ call.WritesIndex) :
    ¬ IndexWriteStopped (trace ++ [⟨call, fault⟩]) := by
  intro hstopped
  rcases hstopped.of_append with hstopped | ⟨attempt, hmem, -, hwrites⟩
  · exact h.no_index_write hstopped
  · obtain rfl := List.mem_singleton.mp hmem
    exact hcall hwrites

/-- Drawing an id is looking. -/
theorem Looked.fresh (store : Memory) (ids : IdSource) (clock : Int64) :
    Looked ⟨store, ids, clock⟩ [] ⟨store, ids.rest, clock⟩ :=
  ⟨rfl, ids.extends_rest, by simp⟩

theorem NewRow.looked {kind : ChildKind} {o : String} {row : kind.Row} {ids : IdSource}
    {clock : Int64} (hids : world.ids.Extends ids)
    (h : NewRow ⟨world.store, ids, clock⟩ world' kind o row) : NewRow world world' kind o row := by
  refine ⟨h.owner, h.organization, h.plain, ?_, h.absent⟩
  have hkey := h.key
  split
  · next huser => rwa [if_pos huser] at hkey
  · next huser =>
    rw [if_neg huser] at hkey
    exact hkey.mono hids

theorem NewInstanceRows.looked {o : String} {app : Instance} {snapshot : Snapshot}
    {parameters : Option InstanceParameters} {ids : IdSource} {clock : Int64}
    (hids : world.ids.Extends ids)
    (h : NewInstanceRows ⟨world.store, ids, clock⟩ world' o app snapshot parameters) :
    NewInstanceRows world world' o app snapshot parameters :=
  { h with issued := h.issued.mono hids }

/-- **What an operation does after it looked is what it does.** -/
theorem Effect.looked {ids : IdSource} {clock : Int64}
    (h : Looked world trace₁ ⟨world.store, ids, clock⟩) {operation : Operation} {succeeded : Bool}
    (heffect : Effect ⟨world.store, ids, clock⟩ world' trace₂ operation succeeded) :
    Effect world world' (trace₁ ++ trace₂) operation succeeded := by
  -- what was stopped after the look was stopped in all
  have hstops : stops trace₂ ≤ stops (trace₁ ++ trace₂) := by
    rw [stops_append]
    omega
  cases heffect with
  | unchanged store index =>
    refine .unchanged store fun hirrevocable hstopped => ?_
    rcases hstopped.of_append with hstopped | hstopped
    · exact h.no_index_write hstopped
    · exact index hirrevocable hstopped
  | founded organization issued absent store =>
    exact .founded organization (issued.mono h.ids) absent store
  | edited before after edits present owner store edit =>
    exact .edited before after edits present owner store (edit.mono h.ids (.refl _))
  | registered row registers new unlisted store draft =>
    exact .registered row registers (new.looked h.ids) unlisted store (draft.mono h.ids (.refl _))
  | stored row registers new cause store draft =>
    refine .stored row registers (new.looked h.ids) ?_ store (draft.mono h.ids (.refl _))
    rcases cause with hlisted | ⟨hkind, hstopped⟩ | hmany
    · exact Or.inl hlisted
    · exact Or.inr (Or.inl ⟨hkind, hstopped.append_left⟩)
    · exact Or.inr (Or.inr (hmany.trans hstops))
  | removed row others listed present unused store =>
    exact .removed row others listed present unused store
  | removedInstance app copy given listed present cause store =>
    refine .removedInstance app copy given listed present (fun hkept => ?_) store
    have := cause hkept
    omega
  | dropped row others listed present unused cause store =>
    obtain ⟨error, hmem⟩ := cause
    exact .dropped row others listed present unused ⟨error, List.mem_append_right _ hmem⟩ store
  | unlisted listed unused cause store =>
    refine .unlisted listed unused ?_ store
    rcases cause with hrow | horganization | hmany
    · exact Or.inl hrow
    · exact Or.inr (Or.inl horganization)
    · exact Or.inr (Or.inr (hmany.trans hstops))
  | launched app snapshot parameters new absent unlisted no_snapshot no_parameters store =>
    exact .launched app snapshot parameters (new.looked h.ids) absent unlisted no_snapshot
      no_parameters store
  | remaining app snapshot parameters new row entry copy some absent unlisted no_snapshot cause
      store =>
    refine .remaining app snapshot parameters (new.looked h.ids) row entry copy some absent
      unlisted no_snapshot ?_ store
    exact cause.imp (fun hmany => hmany.trans hstops) id

/-- **An operation that starts by looking does what it does after that**, on the
same storage and at the same time. -/
theorem Procedure.Reads.effect {α β : Type} {procedure : Procedure α} {f : α → Procedure β}
    {result : Except RegistryError β} {operation : Operation} {store : Memory} {ids : IdSource}
    {clock : Int64} (hreads : procedure.Reads)
    (h : (procedure >>= f).Ends .memory ⟨store, ids, clock⟩ trace result world')
    (hrest : ∀ value ids' trace₁ trace₂,
      procedure.Ends .memory ⟨store, ids, clock⟩ trace₁ (.ok value) ⟨store, ids', clock⟩ →
      (f value).Ends .memory ⟨store, ids', clock⟩ trace₂ result world' →
      Effect ⟨store, ids', clock⟩ world' trace₂ operation result.isOk) :
    Effect ⟨store, ids, clock⟩ world' trace operation result.isOk := by
  rcases hreads.split h with ⟨-, hlooked⟩ | ⟨value, w₁, t₁, t₂, hfirst, hlooked, hsecond, rfl⟩
  · exact hlooked.effect
  -- a look moves neither storage nor the clock
  · obtain ⟨store', ids', clock'⟩ := w₁
    obtain rfl : store' = store := hlooked.store
    obtain rfl : clock' = clock := hfirst.extends.2
    exact (hrest value ids' t₁ t₂ hfirst hsecond).looked hlooked

/-- The same, for an operation that drew ids before. -/
theorem Procedure.Reads.effect_from {α β : Type} {procedure : Procedure α} {f : α → Procedure β}
    {result : Except RegistryError β} {operation : Operation} {start : World Memory}
    {store : Memory} {ids : IdSource} {clock : Int64}
    (hstart : Looked start trace₁ ⟨store, ids, clock⟩) (hreads : procedure.Reads)
    (h : (procedure >>= f).Ends .memory ⟨store, ids, clock⟩ trace result world')
    (hrest : ∀ value ids' trace₂ trace₃, Looked start (trace₁ ++ trace₂) ⟨store, ids', clock⟩ →
      procedure.Ends .memory ⟨store, ids, clock⟩ trace₂ (.ok value) ⟨store, ids', clock⟩ →
      (f value).Ends .memory ⟨store, ids', clock⟩ trace₃ result world' →
      Effect start world' ((trace₁ ++ trace₂) ++ trace₃) operation result.isOk) :
    Effect start world' (trace₁ ++ trace) operation result.isOk := by
  rcases hreads.split h with ⟨-, hlooked⟩ | ⟨value, w₁, t₁, t₂, hfirst, hlooked, hsecond, rfl⟩
  · exact (hstart.trans hlooked).effect
  · obtain ⟨store', ids', clock'⟩ := w₁
    obtain rfl : store' = store := hlooked.store
    obtain rfl : clock' = clock := hfirst.extends.2
    have heffect := hrest value ids' t₁ t₂ (hstart.trans hlooked) hfirst hsecond
    rwa [List.append_assoc] at heffect

end TenantRegistry
