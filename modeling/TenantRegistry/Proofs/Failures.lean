/-
TenantRegistry/Proofs/Failures.lean

What an operation leaves when it fails.

An operation writes to more than one place, and takes back what it wrote when
a later write fails.  Where all places agree, at most one stopped call cannot
keep it from taking everything back: none of the other causes that an effect
gives for remains is possible then (`Effect.leftover`).

Two sorts of operations have a write that they never take back.  A new
descriptor stays when it cannot be entered into the index; and what is removed
is gone when its entry cannot be.  `Leftover` says exactly what is left of
these, and that nothing is left of any other.

Without stops not even this is left, and so all places agree after any
operation (`Effect.consistent`).
-/
import TenantRegistry.Proofs.Consistency

namespace TenantRegistry

/-! ### Leftovers -/

/-- `Leftover before after trace operation`: what is left of an operation that failed. -/
inductive Leftover (before after : Memory) (trace : List Attempt) : Operation → Prop
  /-- Nothing, unless a write to the index was stopped that comes after one that is not undone. -/
  | nothing {operation : Operation} (store : after = before)
      (index : operation.irrevocable = true → ¬ IndexWriteStopped trace) :
      Leftover before after trace operation
  /-- A new descriptor that is not listed. -/
  | descriptor {request : NewDescriptor} (row : Descriptor)
      (owner : row.organizationId = request.organizationId)
      (stopped : IndexWriteStopped trace)
      (new : before.row? .descriptors row.descriptorId = none)
      (unlisted : ∀ o, after.hasChild o .descriptor row.descriptorId = false)
      (store : after = before.put .descriptors row) :
      Leftover before after trace (.addDescriptor request)
  /-- An entry of the index for a row that was removed. -/
  | entry {kind : ChildKind} {organizationId childId : String} (row : kind.Row)
      (others : kind ≠ .cluster)
      (stopped : ∃ error, (⟨.removeChild organizationId kind childId, some error⟩ : Attempt) ∈ trace)
      (owner : kind.table.owner? row = some organizationId)
      (present : before.row? kind.table childId = some row)
      (listed : after.hasChild organizationId kind childId = true)
      (store : after = before.drop kind.table childId) :
      Leftover before after trace (.remove kind organizationId childId)

variable {world world' : World Memory} {trace : List Attempt} {operation : Operation}

/-- **An operation that fails leaves nothing but its `Leftover`**, if all places agreed and at
most one call was stopped. -/
theorem Effect.leftover (heffect : Effect world world' trace operation false)
    (hone : stops trace ≤ 1) (h : Consistent world.store) :
    Leftover world.store world'.store trace operation := by
  cases heffect with
  | unchanged store index => exact .nothing store index
  | @stored _ kind organizationId row registers new cause store =>
    rcases cause with hlisted | ⟨rfl, hindex⟩ | htwo
    · -- a key without a row is not listed
      rw [h.hasChild_eq_false new.absent] at hlisted
      cases hlisted
    · cases operation <;> cases registers
      refine .descriptor row (Option.some.inj new.owner) hindex new.absent (fun o => ?_) store
      rw [store, Memory.hasChild, Memory.children_put]
      have habsent : world.store.row? (ChildKind.table .descriptor) row.descriptorId = none :=
        new.absent
      exact h.hasChild_eq_false habsent
    · omega
  | dropped row others listed present _ cause store =>
    refine .entry row others cause ?_ present (store ▸ listed) store
    -- what is listed belongs to whom it is listed for
    have howner := (h.of_hasChild listed).1
    rw [Memory.ownerAt_of_row? present] at howner
    exact Option.some.inj howner
  | unlisted listed _ cause store =>
    -- what is listed is there, and so is its organization
    obtain ⟨howner, -, -⟩ := h.of_hasChild listed
    rcases cause with hrow | horganization | htwo
    · rw [Memory.ownerAt_eq_none.mpr hrow] at howner
      cases howner
    · exact absurd (Memory.ownerAt_eq_none.mpr horganization) (h.owned _ _ _ howner)
    · omega
  | remaining app snapshot parameters new row entry copy _ absent _ _ cause store =>
    -- where there is no instance, there is nothing of what comes with one
    have habsent : world.store.row? (ChildKind.table .appInstance) app.instanceId = none := absent
    have hinstance := Memory.ownerAt_eq_none.mpr absent
    rcases cause with htwo | hlisted | hcopy | hgiven
    · omega
    · rw [h.hasChild_eq_false habsent] at hlisted
      cases hlisted
    · refine absurd (Memory.ownerAt_eq_none.mp ?_) hcopy
      rw [h.snapshots, hinstance]
    · obtain ⟨owner, howner⟩ := Option.ne_none_iff_exists'.mp
        (mt Memory.ownerAt_eq_none.mp hgiven)
      rw [h.parameters _ _ howner] at hinstance
      cases hinstance

/-- Nothing is left of an operation that fails without stops. -/
theorem Leftover.eq_of_no_stops {before after : Memory}
    (h : Leftover before after trace operation) (hstops : stops trace = 0) : after = before := by
  cases h with
  | nothing store => exact store
  | descriptor _ _ stopped =>
    obtain ⟨attempt, hattempt, hfault, -⟩ := stopped
    exact absurd hstops (stops_ne_zero hattempt hfault)
  | entry _ _ stopped =>
    obtain ⟨error, hattempt⟩ := stopped
    exact absurd hstops (stops_ne_zero hattempt rfl)

/-! ### Operations without stops -/

/-- **An operation without stops keeps all places in agreement**, whether it
succeeds or fails. -/
theorem Effect.consistent {succeeded : Bool}
    (heffect : Effect world world' trace operation succeeded) (hstops : stops trace = 0)
    (hids : ∀ n, Plain (world'.ids.name n)) (h : Consistent world.store) :
    Consistent world'.store := by
  cases succeeded with
  | false =>
    -- what could be left takes a stop
    have hsame := (heffect.leftover (by omega) h).eq_of_no_stops hstops
    exact hsame ▸ h
  | true =>
    -- an organization that was found is stored
    have hthere : ∀ {o}, (world.store.row? .organizations o).isSome = true →
        world.store.ownerAt .organizations o ≠ none := by
      intro o ho hnone
      rw [Memory.ownerAt_eq_none.mp hnone] at ho
      cases ho
    cases heffect with
    | unchanged store => exact store ▸ h
    | founded organization issued _ store =>
      obtain ⟨n, -, -, hname⟩ := issued
      rw [store]
      refine h.of_indexed (h.toIndexed.found (hname ▸ hids n)) ?_
      rintro table (rfl | rfl | rfl) key <;> exact Memory.ownerAt_put_of_ne (by decide) _ key
    | edited before after _ present owner store =>
      rw [store]
      have hsame := Memory.ownerAt_put_of_owner present owner
      exact h.of_indexed (h.toIndexed.of_same (h.keyed.put _ after) (hsame _) (fun _ => hsame _)
        (fun table c o hrow => h.owned table c o (hsame table c ▸ hrow)) rfl)
        fun table _ => hsame table
    | registered row registers new _ store =>
      rw [store]
      exact h.register (Operation.registers?_ne_appInstance registers) new.owner
        (hthere new.organization) (new.plain_key hids) new.absent
    | removed row others listed _ _ store => exact store ▸ h.remove others listed
    | removedInstance app copy given listed _ cause store =>
      -- without stops nothing that came with the instance stays
      have hboth : copy = false ∧ given = false := by
        cases copy <;> cases given <;> simp_all
      obtain ⟨rfl, rfl⟩ := hboth
      exact store ▸ h.remove_instance listed
    | launched app snapshot parameters new absent _ _ _ store =>
      -- an id that was drawn is plain, and nothing else is asked of it
      obtain ⟨n, -, -, hname⟩ := new.issued
      rw [store]
      exact h.launch new.owner (hthere new.organization) (hname ▸ hids n) absent
        ⟨new.snapshot_key, new.snapshot_owner⟩
        fun given hgiven => ⟨new.parameters_key given hgiven, new.parameters_owner given hgiven⟩

end TenantRegistry
