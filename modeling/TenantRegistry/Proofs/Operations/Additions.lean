/-
TenantRegistry/Proofs/Operations/Additions.lean

Operations that register a row.

All but one store the row, enter it into the index, and delete it again if that
fails (`ChildKind.ends_add`).  A descriptor is stored and entered, with no way
back (`Descriptors.effect_writes`).  An organization is stored and not entered.
-/
import TenantRegistry.Proofs.Operations.Edits
import TenantRegistry.Proofs.Validity

namespace TenantRegistry

open Procedure

variable {world world' world'' : World Memory} {trace trace₁ trace₂ : List Attempt}

/-! ### Operations that register a row -/

/-- **A row is stored and entered, or not stored, or cannot be deleted again.** -/
theorem ChildKind.ends_add {kind : ChildKind} {o : String} {row : kind.Row}
    {result : Except RegistryError Unit}
    (h : (kind.add o row).Ends .memory world trace result world') :
    (result.isOk = false ∧ world'.store = world.store) ∨
      (world.store.row? kind.table (kind.table.key row) = none ∧
        ((result.isOk = true ∧ world.store.hasChild o kind (kind.table.key row) = false ∧
            world'.store = (world.store.put kind.table row).enter o kind (kind.table.key row)) ∨
          (result.isOk = false ∧ world'.store = world.store.put kind.table row ∧
            (world.store.hasChild o kind (kind.table.key row) = true ∨
              (world.store.put kind.table row).row? .organizations o = none ∨
              2 ≤ stops trace)))) := by
  rcases ends_dualWrite h with
    ⟨error, hprimary, rfl⟩ | ⟨w₁, t₁, t₂, hprimary, hsecondary, rfl, rfl⟩ |
    ⟨w₁, w₂, t₁, t₂, t₃, error, undone, hprimary, hsecondary, hundo, rfl, rfl⟩
  · -- the row is not stored
    rcases ends_write hprimary with ⟨_, _, -, rfl, -, -⟩ | ⟨_, hok, -⟩
    · exact Or.inl ⟨rfl, rfl⟩
    · cases hok
  · -- the row is stored and entered
    obtain ⟨hstored, -, rfl⟩ := ends_perform_ok hprimary
    obtain ⟨hentered, -, rfl⟩ := ends_perform_ok hsecondary
    obtain ⟨habsent, hput⟩ := Memory.add_accepted hstored
    dsimp only at hentered
    rw [hput] at hentered
    obtain ⟨hunlisted, henter⟩ := Memory.addChild_accepted hentered
    refine Or.inr ⟨habsent, Or.inl ⟨rfl, hunlisted, ?_⟩⟩
    dsimp only
    rw [hput, henter]
  · -- the row is stored and not entered
    obtain ⟨hstored, rfl, rfl⟩ := ends_perform_ok hprimary
    obtain ⟨habsent, hput⟩ := Memory.add_accepted hstored
    rw [hput] at hsecondary
    rcases ends_write hsecondary with ⟨_, fault, -, rfl, rfl, hrefused⟩ | ⟨_, hok, -⟩
    · rcases ends_write hundo with ⟨_, fault', -, rfl, rfl, hkept⟩ | ⟨_, -, haccepted, rfl, rfl⟩
      · -- and cannot be deleted
        refine Or.inr ⟨habsent, Or.inr ⟨rfl, rfl, ?_⟩⟩
        cases fault' with
        | none =>
          -- storage does not refuse to delete a row that was just stored
          obtain ⟨cause, hcause⟩ := hkept rfl
          have hmissing := Memory.remove_refused hcause
          rw [Memory.row?_put_self, if_pos rfl] at hmissing
          cases hmissing
        | some error' =>
          cases fault with
          | none =>
            obtain ⟨cause, hcause⟩ := hrefused rfl
            rcases Memory.addChild_refused hcause with hmissing | hlisted
            · exact Or.inr (Or.inl hmissing)
            · exact Or.inl hlisted
          | some error => exact Or.inr (Or.inr (le_refl _))
      · -- and is deleted
        obtain ⟨-, hdrop⟩ := Memory.remove_accepted haccepted
        refine Or.inl ⟨rfl, ?_⟩
        dsimp only
        rw [hdrop]
        exact Memory.drop_put habsent
    · cases hok

theorem ends_freshId_bind {β : Type} {f : String → Procedure β} {result : Except RegistryError β}
    (h : (freshId >>= f).Ends .memory world trace result world') :
    (f world.ids.next).Ends .memory ⟨world.store, world.ids.rest, world.clock⟩ trace result
      world' := by
  rcases ends_bind h with ⟨error, hfirst, rfl⟩ | ⟨id, _, t₁, t₂, hfirst, hrest, rfl⟩
  · obtain ⟨-, hok, -⟩ := ends_freshId hfirst
    cases hok
  · obtain ⟨rfl, hok, rfl⟩ := ends_freshId hfirst
    cases hok
    exact hrest

theorem ends_now_bind {β : Type} {f : Int64 → Procedure β} {result : Except RegistryError β}
    (h : (now >>= f).Ends .memory world trace result world') :
    (f world.clock).Ends .memory world trace result world' := by
  rcases ends_bind h with ⟨error, hfirst, rfl⟩ | ⟨time, _, t₁, t₂, hfirst, hrest, rfl⟩
  · obtain ⟨-, hok, -⟩ := ends_now hfirst
    cases hok
  · obtain ⟨rfl, hok, rfl⟩ := ends_now hfirst
    cases hok
    exact hrest

/-- Every organization is still there after a row of another table was put. -/
theorem organization_put {memory : Memory} (kind : ChildKind) {row : kind.Row} {o : String}
    (h : (memory.row? .organizations o).isSome = true) :
    (memory.put kind.table row).row? .organizations o ≠ none := by
  rw [Memory.row?_put_of_ne _ _ kind.table_ne_organizations.symm]
  exact Option.isSome_iff_ne_none.mp h

/-- A request that was accepted is for an organization with a plain id. -/
theorem plain_of_ensureIdentifier {field value : String}
    (h : ensureIdentifier field value = .ok ()) : Plain value :=
  (ensureIdentifier_eq_ok_iff.mp h).plain

/-- **What an operation does that registers a row**, from where all that it
draws is drawn. -/
theorem ChildKind.effect_add {start : World Memory} {kind : ChildKind} {o : String}
    {row : kind.Row} {operation : Operation} {result : Except RegistryError kind.Row}
    (h : (kind.add o row >>= fun _ => pure row).Ends .memory world trace₂ result world')
    (hlooked : Looked start trace₁ world) (hregisters : operation.registers? = some (kind, o))
    (hirrevocable : operation.irrevocable = false) (howner : kind.table.owner? row = some o)
    (horganization : (start.store.row? .organizations o).isSome = true) (hplain : Plain o)
    (hkey : if kind = .user then Plain (kind.table.key row)
      else start.ids.Issued world.ids (kind.table.key row))
    (hdraft : Draft start.ids world.ids operation kind row) :
    Effect start world' (trace₁ ++ trace₂) operation result.isOk := by
  obtain ⟨outcome, hadd, heq⟩ := ends_answering h
  have hdraft := hdraft.mono (.refl _) h.extends.1
  -- whether the row is entered or not, it is a new row
  have hnew : world.store.row? kind.table (kind.table.key row) = none →
      NewRow start world' kind o row := by
    intro habsent
    refine ⟨howner, horganization, hplain, ?_, hlooked.store ▸ habsent⟩
    split
    · next huser => rwa [if_pos huser] at hkey
    · next huser =>
      rw [if_neg huser] at hkey
      exact hkey.extend h.extends.1
  rw [heq]
  rcases ends_add hadd with ⟨-, hstore⟩ | ⟨habsent, ⟨hok, hunlisted, hstore⟩ | ⟨hfailed, hstore, hcause⟩⟩
  · refine .unchanged (hstore.trans hlooked.store) fun hback => ?_
    rw [hirrevocable] at hback
    cases hback
  · rw [hok]
    rw [hlooked.store] at hunlisted hstore
    exact .registered row hregisters (hnew habsent) hunlisted hstore hdraft
  · rw [hfailed]
    rw [hlooked.store] at hstore hcause
    refine .stored row hregisters (hnew habsent) ?_ hstore hdraft
    rcases hcause with hlisted | hmissing | hmany
    · exact Or.inl hlisted
    · exact absurd hmissing (organization_put kind horganization)
    · refine Or.inr (Or.inr ?_)
      rw [stops_append]
      omega

/-- Operations that register a row under an id that they draw. -/
theorem ChildKind.effect_register {kind : ChildKind} {o : String}
    {valid : Except Violation Unit} (row : String → Int64 → kind.Row) {operation : Operation}
    {result : Except RegistryError kind.Row}
    (h : Procedure.Ends .memory (do
      validate valid
      requireOrganization o
      let id ← freshId
      let time ← now
      kind.add o (row id time)
      return row id time) world trace result world')
    (hvalid : valid = .ok () → Plain o) (hkind : kind ≠ .user)
    (hkey : ∀ id time, kind.table.key (row id time) = id)
    (howner : ∀ id time, kind.table.owner? (row id time) = some o)
    (hregisters : operation.registers? = some (kind, o))
    (hirrevocable : operation.irrevocable = false)
    (hdraft : ∀ ids ids' id time, Draft ids ids' operation kind (row id time)) :
    Effect world world' trace operation result.isOk := by
  obtain ⟨store, ids, clock⟩ := world
  refine (reads_validate _).effect h fun _ _ _ _ haccepted h => ?_
  refine (reads_requireOrganization _).effect h fun _ _ _ _ hrequired h => ?_
  have hplain := hvalid (ends_validate_ok haccepted)
  have hthere := ends_requireOrganization_ok hrequired
  have h := ends_now_bind (ends_freshId_bind h)
  refine effect_add h (.fresh _ _ _) hregisters hirrevocable (howner _ _) hthere hplain ?_
    (hdraft _ _ _ _)
  -- the key is the id that was just drawn
  rw [if_neg hkind, hkey]
  exact IdSource.issued_next (.refl _)

theorem Clusters.effect_add {request : NewCluster} {result : Except RegistryError Cluster}
    (h : (Clusters.add request).Ends .memory world trace result world') :
    Effect world world' trace (.addCluster request) result.isOk :=
  ChildKind.effect_register _ h
    (fun hvalid => plain_of_ensureIdentifier (both_eq_ok_iff.mp hvalid).1) nofun (fun _ _ => rfl)
    (fun _ _ => rfl) rfl rfl (fun _ _ _ _ => .cluster _ _ _)

theorem Nodes.effect_add {request : NewNode} {result : Except RegistryError Node}
    (h : (Nodes.add request).Ends .memory world trace result world') :
    Effect world world' trace (.addNode request) result.isOk :=
  ChildKind.effect_register _ h
    (fun hvalid => plain_of_ensureIdentifier (both_eq_ok_iff.mp hvalid).1) nofun (fun _ _ => rfl)
    (fun _ _ => rfl) rfl rfl (fun _ _ _ _ => .node _ _ _)

theorem Roles.effect_add {request : NewRole} {result : Except RegistryError Role}
    (h : (Roles.add request).Ends .memory world trace result world') :
    Effect world world' trace (.addRole request) result.isOk :=
  ChildKind.effect_register _ h
    (fun hvalid => plain_of_ensureIdentifier (both_eq_ok_iff.mp hvalid).1) nofun (fun _ _ => rfl)
    (fun _ _ => rfl) rfl rfl (fun _ _ _ _ => .role _ _ _)

theorem Users.effect_add {request : NewUser} {result : Except RegistryError User}
    (h : (Users.add request).Ends .memory world trace result world') :
    Effect world world' trace (.addUser request) result.isOk := by
  obtain ⟨store, ids, clock⟩ := world
  refine (reads_validate _).effect h fun _ _ _ _ hvalid h => ?_
  refine (reads_requireOrganization _).effect h fun _ _ _ _ hrequired h => ?_
  -- the id of the organization is checked first, and then the address
  obtain ⟨hid, hrest⟩ := both_eq_ok_iff.mp (ends_validate_ok hvalid)
  have hplain := plain_of_ensureIdentifier hid
  have hemail := plain_of_ensureIdentifier (both_eq_ok_iff.mp hrest).1
  have hthere := ends_requireOrganization_ok hrequired
  have h := ends_now_bind h
  exact ChildKind.effect_add h (.refl _) rfl rfl rfl hthere hplain hemail (.user _ _)

theorem Organizations.effect_add {request : NewOrganization}
    {result : Except RegistryError Organization}
    (h : (Organizations.add request).Ends .memory world trace result world') :
    Effect world world' trace (.addOrganization request) result.isOk := by
  obtain ⟨store, ids, clock⟩ := world
  refine (reads_validate _).effect h fun _ _ _ _ _ h => ?_
  refine (reads_requireFreeName _ _).effect h fun _ ids _ _ _ h => ?_
  have h := ends_now_bind (ends_freshId_bind h)
  obtain ⟨outcome, hadd, heq⟩ := ends_answering h
  rw [heq]
  rcases ends_write hadd with ⟨_, _, rfl, rfl, -, -⟩ | ⟨_, rfl, haccepted, -, rfl⟩
  · exact .unchanged rfl nofun
  · obtain ⟨habsent, hput⟩ := Memory.add_accepted haccepted
    exact .founded _ (IdSource.issued_next (.refl _)) habsent hput

/-- A descriptor is stored and then entered, with no way back. -/
theorem Descriptors.effect_writes {start : World Memory} {request : NewDescriptor}
    {descriptor : Descriptor} {result : Except RegistryError Descriptor}
    (h : Procedure.Ends .memory (do
      perform (.add .descriptors descriptor)
      perform (.addChild descriptor.organizationId .descriptor descriptor.descriptorId)
      return descriptor) world trace₂ result world')
    (hlooked : Looked start trace₁ world)
    (howner : descriptor.organizationId = request.organizationId)
    (horganization : (start.store.row? .organizations request.organizationId).isSome = true)
    (hplain : Plain request.organizationId)
    (hissued : start.ids.Issued world.ids descriptor.descriptorId)
    (hdraft : Draft start.ids world.ids (.addDescriptor request) .descriptor descriptor) :
    Effect start world' (trace₁ ++ trace₂) (.addDescriptor request) result.isOk := by
  have hids := h.extends.1
  have hdraft := hdraft.mono (.refl _) hids
  rcases ends_bind h with ⟨error, hadd, rfl⟩ | ⟨⟨⟩, w₁, t₁, t₂, hadd, h, rfl⟩
  · -- the descriptor is not stored
    rcases ends_write hadd with ⟨_, fault, -, rfl, rfl, -⟩ | ⟨_, hok, -⟩
    · exact .unchanged hlooked.store fun _ => hlooked.no_index_write_append id
    · cases hok
  obtain ⟨hstored, -, rfl⟩ := ends_perform_ok hadd
  obtain ⟨habsent, hput⟩ := Memory.add_accepted hstored
  rw [hlooked.store] at hstored habsent hput
  -- the descriptor is stored, and the index comes next
  have hnew : NewRow start world' .descriptor request.organizationId descriptor :=
    ⟨congrArg some howner, horganization, hplain, hissued.extend hids, habsent⟩
  have hregisters : Operation.registers? (.addDescriptor request) =
      some (.descriptor, request.organizationId) := rfl
  obtain ⟨outcome, hchild, heq⟩ := ends_answering h
  rw [heq]
  rw [hlooked.store, hput, howner] at hchild
  rcases ends_write hchild with ⟨_, fault, rfl, rfl, rfl, hrefused⟩ | ⟨_, rfl, haccepted, -, rfl⟩
  · -- and it is not entered
    refine .stored _ hregisters hnew ?_ rfl hdraft
    cases fault with
    | none =>
      obtain ⟨cause, hcause⟩ := hrefused rfl
      rcases Memory.addChild_refused hcause with hmissing | hlisted
      · exact absurd hmissing (organization_put .descriptor horganization)
      · exact Or.inl hlisted
    | some error =>
      refine Or.inr (Or.inl ⟨rfl, ?_⟩)
      exact ⟨_, List.mem_append_right _ (List.mem_append_right _ List.mem_cons_self), rfl, trivial⟩
  · obtain ⟨hunlisted, henter⟩ := Memory.addChild_accepted haccepted
    exact .registered _ hregisters hnew hunlisted henter hdraft

theorem Descriptors.effect_add {request : NewDescriptor}
    {result : Except RegistryError Descriptor}
    (h : (Descriptors.add request).Ends .memory world trace result world') :
    Effect world world' trace (.addDescriptor request) result.isOk := by
  obtain ⟨store, ids, clock⟩ := world
  refine (reads_validate _).effect h fun _ _ _ _ hvalid h => ?_
  refine (reads_requireOrganization _).effect h fun _ _ _ _ hrequired h => ?_
  have hplain := plain_of_ensureIdentifier (both_eq_ok_iff.mp (ends_validate_ok hvalid)).1
  have hthere := ends_requireOrganization_ok hrequired
  have h := ends_freshId_bind h
  -- the id of the descriptor is drawn before those of its rules and groups
  refine (reads_mapM reads_renewed_rule _).effect_from (.fresh _ _ _) h
    fun rules _ _ _ _ hrules h => ?_
  refine (reads_mapM reads_renewed_group _).effect_from ‹_› h
    fun groups _ _ _ hlooked hgroups h => ?_
  have h := ends_now_bind h
  have hgave := ((draws_renewed_rules hrules).append (draws_renewed_groups hgroups)).cons.gave
  have hissued := hgave.issued _ List.mem_cons_self
  exact Descriptors.effect_writes h hlooked rfl hthere hplain hissued (.descriptor _ _ _ _ _ hgave)

end TenantRegistry
