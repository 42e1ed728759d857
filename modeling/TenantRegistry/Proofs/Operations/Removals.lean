/-
TenantRegistry/Proofs/Operations/Removals.lean

Operations that remove a row.

A row is deleted, and then its entry in the index (`ChildKind.ends_remove`).  A
cluster leaves the index first and enters it again if its row cannot be
deleted.  After an instance is gone, the deletion of what came with it is tried.
-/
import TenantRegistry.Proofs.Operations.Edits

namespace TenantRegistry

open Procedure

variable {world world' world'' : World Memory} {trace trace₁ trace₂ : List Attempt}

/-! ### Operations that remove a row -/

/-- **A row is deleted and then its entry; if the entry stays, its deletion was stopped.** -/
theorem ChildKind.ends_remove {kind : ChildKind} {o c : String} {result : Except RegistryError Unit}
    (h : (kind.remove o c).Ends .memory world trace result world') :
    (result.isOk = false ∧ world'.store = world.store ∧ ¬ IndexWriteStopped trace) ∨
      (world.store.hasChild o kind c = true ∧
        (∃ row, world.store.row? kind.table c = some row) ∧
        ((result.isOk = true ∧ world'.store = (world.store.drop kind.table c).leave o kind c) ∨
          (result.isOk = false ∧ world'.store = world.store.drop kind.table c ∧
            ∃ error, (⟨.removeChild o kind c, some error⟩ : Attempt) ∈ trace))) := by
  rcases (kind.reads_require o c).split h with
    ⟨⟨error, rfl⟩, hlooked⟩ | ⟨⟨⟩, w₁, t₁, t, hrequire, hlooked, hdelete, rfl⟩
  · exact Or.inl ⟨rfl, hlooked.store, hlooked.no_index_write⟩
  have hlisted := ends_require_ok hrequire
  rcases ends_bind hdelete with ⟨error, hremove, rfl⟩ | ⟨⟨⟩, w₂, t₂, t₃, hremove, hleft, rfl⟩
  · -- the row stays
    rcases ends_write hremove with ⟨_, fault, -, rfl, rfl, -⟩ | ⟨_, hok, -⟩
    · exact Or.inl ⟨rfl, hlooked.store, hlooked.no_index_write_append id⟩
    · cases hok
  -- the row is gone, and only its entry is left to delete
  obtain ⟨hremoved, -, rfl⟩ := ends_perform_ok hremove
  rw [hlooked.store] at hremoved
  obtain ⟨hpresent, hdrop⟩ := Memory.remove_accepted hremoved
  rw [hlooked.store, hdrop] at hleft
  refine Or.inr ⟨hlisted, hpresent, ?_⟩
  rcases ends_write hleft with ⟨_, fault, rfl, rfl, rfl, hrefused⟩ | ⟨_, rfl, haccepted, -, rfl⟩
  · cases fault with
    | none =>
      -- storage does not refuse to delete an entry that is listed
      obtain ⟨cause, hcause⟩ := hrefused rfl
      have hunlisted : (world.store.drop kind.table c).hasChild o kind c = false :=
        Memory.removeChild_refused hcause
      exact absurd (hlisted.symm.trans hunlisted) (by decide)
    | some error =>
      refine Or.inr ⟨rfl, rfl, error, ?_⟩
      exact List.mem_append_right _ (List.mem_append_right _ List.mem_cons_self)
  · obtain ⟨-, hleave⟩ := Memory.removeChild_accepted haccepted
    exact Or.inl ⟨rfl, hleave⟩

/-- What an operation does that removes a row, from where it does so. -/
theorem ChildKind.effect_remove {kind : ChildKind} {o c : String} {result : Except RegistryError Unit}
    (h : (kind.remove o c).Ends .memory world trace result world') (hinstance : kind ≠ .appInstance)
    (hcluster : kind ≠ .cluster) (hunused : world.store.Unused o kind c) :
    Effect world world' trace (.remove kind o c) result.isOk := by
  rcases ends_remove h with
    ⟨-, hstore, hindex⟩ | ⟨hlisted, ⟨row, hrow⟩, ⟨hok, hstore⟩ | ⟨hfailed, hstore, hcause⟩⟩
  · exact .unchanged hstore fun _ => hindex
  · rw [hok]
    exact .removed row hinstance hlisted hrow hunused hstore
  · rw [hfailed]
    exact .dropped row hcluster hlisted hrow hunused hcause hstore

/-- No row that an organization owns passes a test that none of its rows passed. -/
theorem not_of_countP_listed {table : Table} {store : Memory} {owner : String}
    {test : table.Row → Bool} {rows : List table.Row}
    (hrows : rows = (store.rows table).values.filter fun row => table.owner? row = some owner)
    (hcount : ¬ rows.countP test > 0) {key : String} {row : table.Row}
    (hrow : store.row? table key = some row) (howner : table.owner? row = some owner) :
    test row = false := by
  have hmem : row ∈ rows := by
    rw [hrows, List.mem_filter]
    exact ⟨OrderedMap.mem_values_iff.mpr ⟨key, hrow⟩, by simpa using howner⟩
  by_contra htest
  exact hcount (List.countP_pos_iff.mpr ⟨row, hmem, by simpa using htest⟩)

theorem Descriptors.effect_remove {o c : String} {result : Except RegistryError Unit}
    (h : (Descriptors.remove o c).Ends .memory world trace result world') :
    Effect world world' trace (.remove .descriptor o c) result.isOk := by
  obtain ⟨store, ids, clock⟩ := world
  refine (reads_validate _).effect h fun _ _ _ _ _ h => ?_
  refine (reads_validate _).effect h fun _ _ _ _ _ h => ?_
  refine (ChildKind.descriptor.reads_require _ _).effect h fun _ _ _ _ _ h => ?_
  refine (reads_listByOwner .instances o).effect h fun instances _ _ _ hinstances h => ?_
  have hrows := ends_listByOwner_ok hinstances
  dsimp only at h
  split at h
  · exact effect_of_throw h
  · next hnone =>
    refine ChildKind.effect_remove h nofun nofun fun key app hrow howner => ?_
    -- no instance that the organization owns is of this descriptor
    have htest := not_of_countP_listed hrows hnone hrow (congrArg some howner)
    simpa using htest

theorem Memory.perform_remove_snd (memory : Memory) (table : Table) (key : String) :
    (memory.perform (.remove table key)).2 = memory.drop table key := by
  rw [perform_remove]
  split
  · rfl
  · next habsent => exact (drop_of_absent (by simpa using habsent)).symm

/-- A deletion that nobody waits for is stopped, or the row is gone. -/
theorem ends_attempt_remove {table : Table} {key : String}
    {result : Except RegistryError (Except StoreError Unit)}
    (h : (attempt (.remove table key)).Ends .memory world trace result world') :
    result.isOk = true ∧ ∃ kept : Bool, (kept = true → stops trace ≠ 0) ∧
      world'.store = if kept then world.store else world.store.drop table key := by
  rcases ends_attempt h with ⟨error, rfl, rfl, rfl⟩ | ⟨rfl, rfl, rfl⟩
  · exact ⟨rfl, true, by simp, rfl⟩
  · exact ⟨rfl, false, nofun, world.store.perform_remove_snd table key⟩

theorem Instances.effect_remove {o c : String} {result : Except RegistryError Unit}
    (h : (Instances.remove o c).Ends .memory world trace result world') :
    Effect world world' trace (.remove .appInstance o c) result.isOk := by
  obtain ⟨store, ids, clock⟩ := world
  refine (reads_validate _).effect h fun _ ids _ _ _ h => ?_
  refine (reads_validate _).effect h fun _ ids _ _ _ h => ?_
  rcases ends_bind h with ⟨error, hremove, rfl⟩ | ⟨⟨⟩, w₁, t₁, t, hremove, hrest, rfl⟩
  · rcases ChildKind.ends_remove hremove with
      ⟨-, hstore, hindex⟩ | ⟨hlisted, ⟨row, hrow⟩, ⟨hok, -⟩ | ⟨-, hstore, hcause⟩⟩
    · exact .unchanged hstore fun _ => hindex
    · cases hok
    · exact .dropped row nofun hlisted hrow trivial hcause hstore
  rcases ChildKind.ends_remove hremove with
    ⟨hfailed, -⟩ | ⟨hlisted, ⟨row, hrow⟩, ⟨-, hstore⟩ | ⟨hfailed, -⟩⟩
  · cases hfailed
  · rcases ends_bind hrest with ⟨error, hcopy, -⟩ | ⟨_, w₂, t₂, t₃, hcopy, hlast, rfl⟩
    · obtain ⟨hok, -⟩ := ends_attempt_remove hcopy
      cases hok
    -- the instance is gone; what came with it goes too, or a stop keeps it
    obtain ⟨outcome, hgiven, heq⟩ := ends_answering hlast
    obtain ⟨-, copy, hcopystops, hcopystore⟩ := ends_attempt_remove hcopy
    obtain ⟨hok, given, hgivenstops, hgivenstore⟩ := ends_attempt_remove hgiven
    rw [heq, hok]
    refine .removedInstance row copy given hlisted hrow ?_ ?_
    · simp only [stops_append]
      rintro (hkept | hkept)
      · have := hcopystops hkept
        omega
      · have := hgivenstops hkept
        omega
    · rw [hgivenstore, hcopystore, hstore]
  · cases hfailed

theorem Clusters.effect_remove {o c : String} {result : Except RegistryError Unit}
    (h : (Clusters.remove o c).Ends .memory world trace result world') :
    Effect world world' trace (.remove .cluster o c) result.isOk := by
  have hrevocable : ¬ (Operation.remove .cluster o c).irrevocable = true := by
    simp [Operation.irrevocable]
  obtain ⟨store, ids, clock⟩ := world
  refine (reads_validate _).effect h fun _ _ _ _ _ h => ?_
  refine (reads_validate _).effect h fun _ _ _ _ _ h => ?_
  refine (ChildKind.cluster.reads_require _ _).effect h fun _ _ _ _ hrequire h => ?_
  have hlisted := ChildKind.ends_require_ok hrequire
  refine (reads_listByOwner .nodes o).effect h fun nodes _ _ _ hnodes h => ?_
  have hrows := ends_listByOwner_ok hnodes
  dsimp only at h hlisted
  split at h
  · exact effect_of_throw h
  next hnone =>
  -- no node that the organization owns is in this cluster
  have hunused : store.Unused o .cluster c := by
    intro key node hrow howner
    have htest := not_of_countP_listed hrows hnone hrow (congrArg some howner)
    simpa using htest
  rcases ends_dualWrite h with
    ⟨error, hprimary, rfl⟩ | ⟨w₁, t₁, t₂, hprimary, hsecondary, rfl, rfl⟩ |
    ⟨w₁, w₂, t₁, t₂, t₃, error, undone, hprimary, hsecondary, hundo, rfl, rfl⟩
  · -- the cluster stays listed
    rcases ends_write hprimary with ⟨_, _, -, rfl, -, -⟩ | ⟨_, hok, -⟩
    · exact .unchanged rfl (absurd · hrevocable)
    · cases hok
  · -- the cluster is gone
    obtain ⟨hleft, -, rfl⟩ := ends_perform_ok hprimary
    obtain ⟨hremoved, -, rfl⟩ := ends_perform_ok hsecondary
    obtain ⟨-, hleave⟩ := Memory.removeChild_accepted hleft
    rw [hleave] at hremoved
    obtain ⟨⟨row, hrow⟩, hdrop⟩ := Memory.remove_accepted hremoved
    refine .removed row (by decide) hlisted hrow hunused ?_
    show (Memory.perform (.remove .clusters c) (Memory.perform _ store).2).2 = _
    rw [hleave, hdrop]
    rfl
  · -- the cluster is not listed any more, and its row stays
    obtain ⟨hleft, rfl, rfl⟩ := ends_perform_ok hprimary
    obtain ⟨-, hleave⟩ := Memory.removeChild_accepted hleft
    dsimp only at hsecondary hleave
    rw [hleave] at hsecondary
    rcases ends_write hsecondary with ⟨_, fault, -, rfl, rfl, hrefused⟩ | ⟨_, hok, -⟩
    · rcases ends_write hundo with ⟨_, fault', -, rfl, rfl, hkept⟩ | ⟨_, -, haccepted, -, rfl⟩
      · refine .unlisted hlisted hunused ?_ rfl
        cases fault with
        | none =>
          obtain ⟨cause, hcause⟩ := hrefused rfl
          have hrow : (store.leave o .cluster c).row? .clusters c = none :=
            Memory.remove_refused hcause
          exact Or.inl hrow
        | some error =>
          cases fault' with
          | none =>
            obtain ⟨cause, hcause⟩ := hkept rfl
            rcases Memory.addChild_refused hcause with hmissing | hthere
            · exact Or.inr (Or.inl hmissing)
            · -- it cannot be listed, as it has just left
              have hgone := Memory.contains_children_leave store o .cluster c
                (IndexKey.entry o .cluster c)
              rw [decide_eq_false (by simp), Bool.false_and] at hgone
              rw [Memory.hasChild, hgone] at hthere
              cases hthere
          | some error' => exact Or.inr (Or.inr (le_refl _))
      -- the cluster is listed again, as if it had never left
      · obtain ⟨-, henter⟩ := Memory.addChild_accepted haccepted
        refine .unchanged ?_ (absurd · hrevocable)
        show (Memory.perform _ (store.leave o .cluster c)).2 = store
        rw [henter]
        exact Memory.enter_leave hlisted
    · cases hok

end TenantRegistry
