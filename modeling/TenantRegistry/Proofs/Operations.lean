/-
TenantRegistry/Proofs/Operations.lean

The effect of each operation.

Operations come in families, and there is one lemma for what the members of a
family share: registering a row, editing one, removing one, and making an
instance.  An operation is then taken apart up to the point where its family
takes over; all that comes before only looks.

Main result: `Operation.effect`.
-/
import TenantRegistry.Proofs.Operations.Launches

namespace TenantRegistry

open Procedure

variable {world world' world'' : World Memory} {trace trace₁ trace₂ : List Attempt}

/-! ### All operations -/

theorem effect_of_reads {operation : Operation} {result : Except RegistryError operation.Answer}
    (hreads : operation.procedure.Reads)
    (h : operation.procedure.Ends .memory world trace result world') :
    Effect world world' trace operation result.isOk :=
  (hreads.looked h).effect

/-- What is removed of a kind without operations of its own. -/
theorem Operation.effect_remove {kind : ChildKind} {o c : String} {result : Except RegistryError Unit}
    (h : (Operation.remove kind o c).procedure.Ends .memory world trace result world') :
    Effect world world' trace (.remove kind o c) result.isOk := by
  cases kind with
  | cluster => exact Clusters.effect_remove h
  | node => exact ChildKind.effect_remove h nofun nofun trivial
  | descriptor => exact Descriptors.effect_remove h
  | appInstance => exact Instances.effect_remove h
  | user => exact ChildKind.effect_remove h nofun nofun trivial
  | role => exact ChildKind.effect_remove h nofun nofun trivial

/-- **Whatever calls are stopped, an operation has one of its effects.** -/
theorem Operation.effect {operation : Operation} {result : Except RegistryError operation.Answer}
    (hkeyed : world.store.Keyed)
    (h : operation.procedure.Ends .memory world trace result world') :
    Effect world world' trace operation result.isOk := by
  cases operation with
  | addOrganization request => exact Organizations.effect_add h
  | getOrganization o => exact effect_of_reads (reads_perform (.get .organizations o) trivial) h
  | listOrganizations => exact effect_of_reads (reads_perform (.list .organizations) trivial) h
  | updateOrganization edit => exact Organizations.effect_update hkeyed h
  | get kind o c => exact effect_of_reads (kind.reads_get o c) h
  | list kind o => exact effect_of_reads (kind.reads_list o) h
  | remove kind o c => exact Operation.effect_remove h
  | addCluster request => exact Clusters.effect_add h
  | updateCluster edit => exact Clusters.effect_update hkeyed h
  | cordonCluster o c =>
    refine Clusters.effect_move hkeyed (fun hfetched hmoved hchanged => ?_) h
    exact .cordon hfetched hmoved hchanged
  | uncordonCluster o c =>
    refine Clusters.effect_move hkeyed (fun hfetched hmoved hchanged => ?_) h
    exact .uncordon hfetched hmoved hchanged
  | addNode request => exact Nodes.effect_add h
  | assignNode o nodeId clusterId => exact Nodes.effect_assign hkeyed h
  | addUser request => exact Users.effect_add h
  | addRole request => exact Roles.effect_add h
  | addDescriptor request => exact Descriptors.effect_add h
  | updateDescriptor edit => exact Descriptors.effect_update hkeyed h
  | addInstance request => exact Instances.effect_add hkeyed h
  | getSnapshot o c =>
    exact effect_of_reads ((ChildKind.appInstance.reads_require o c).bind fun _ =>
      reads_perform (.get .snapshots c) trivial) h
  | getParameters o c =>
    exact effect_of_reads ((ChildKind.appInstance.reads_require o c).bind fun _ =>
      reads_perform (.get .parameters c) trivial) h
  | addGroupInstances request => exact Instances.effect_addGroups hkeyed h
  | addServiceInstance request => exact Instances.effect_addService hkeyed h
  | reportStatus report => exact Instances.effect_report hkeyed h
  | setReplicas o c g available unavailable => exact Instances.effect_setReplicas hkeyed h
  | setStatus o c status =>
    exact Instances.effect_rewrite (fun app => { app with status }) (fun _ => rfl) .status hkeyed h
  | removeGroupInstances o c =>
    exact Instances.effect_rewrite (fun app => { app with groups := [] }) (fun _ => rfl) .noGroups
      hkeyed h

/-! ### Ids of what is removed -/

/-- What starts by looking at two ids does nothing unless both are plain. -/
theorem plain_of_validated {α : Type} {field field' o c : String} {rest : Unit → Procedure α}
    {result : Except RegistryError α}
    (h : (validate (ensureIdentifier field o) >>= fun _ =>
      validate (ensureIdentifier field' c) >>= rest).Ends .memory world trace result world') :
    world' = world ∨ (Plain o ∧ Plain c) := by
  rcases ends_bind h with ⟨_, hfailed, -⟩ | ⟨⟨⟩, _, _, _, hfirst, hrest, -⟩
  · obtain ⟨-, -, hsame⟩ := ends_check hfailed
    exact Or.inl hsame
  obtain ⟨-, -, rfl⟩ := ends_check hfirst
  rcases ends_bind hrest with ⟨_, hfailed, -⟩ | ⟨⟨⟩, _, _, _, hsecond, -, -⟩
  · obtain ⟨-, -, hsame⟩ := ends_check hfailed
    exact Or.inl hsame
  · exact Or.inr ⟨plain_of_ensureIdentifier (ends_validate_ok hfirst),
      plain_of_ensureIdentifier (ends_validate_ok hsecond)⟩

/-- **A cluster, a descriptor or an instance is removed under plain ids, or not at all.** -/
theorem Operation.plain_of_remove {kind : ChildKind} {o c : String}
    {result : Except RegistryError Unit}
    (hkind : kind = .cluster ∨ kind = .descriptor ∨ kind = .appInstance)
    (h : (Operation.remove kind o c).procedure.Ends .memory world trace result world') :
    world' = world ∨ (Plain o ∧ Plain c) := by
  rcases hkind with rfl | rfl | rfl
  · exact plain_of_validated h
  · exact plain_of_validated h
  · exact plain_of_validated h

end TenantRegistry
