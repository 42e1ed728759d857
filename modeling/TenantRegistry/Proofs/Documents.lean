/-
TenantRegistry/Proofs/Documents.lean

Parts of an instance by their ids.

An instance is one document.  Its group instances and their service instances
are found by ids, each time as the first one that fits, and without stops no
other one fits if ids do not repeat (`Instance.Distinct`).

Ids of parts to come are not in any row (`World.Unseen`).
-/
import TenantRegistry.Proofs.Membership

namespace TenantRegistry

/-! ### Ids in an instance -/

/-- The ids in an instance: no group instance and no service instance shares one with another. -/
structure Instance.Distinct (app : Instance) : Prop where
  groups : (app.groups.map (·.groupInstanceId)).Nodup
  services : ∀ group ∈ app.groups, (group.services.map (·.serviceInstanceId)).Nodup
  /-- Nor does a service instance with those of another group instance. -/
  apart : app.groups.Pairwise fun group other => ∀ service ∈ group.services,
    ∀ service' ∈ other.services, service.serviceInstanceId ≠ service'.serviceInstanceId

/-- Where ids differ, so do those that the elements of a list go by. -/
theorem nodup_map_of_flatMap {α : Type} {ids : α → List String} {id : α → String} {xs : List α}
    (hid : ∀ x, id x ∈ ids x) (h : (xs.flatMap ids).Nodup) : (xs.map id).Nodup := by
  obtain ⟨-, hpairs⟩ := List.nodup_flatMap.mp h
  refine List.pairwise_map.mpr (hpairs.imp fun {x y} hdisjoint heq => ?_)
  exact hdisjoint (hid x) (heq ▸ hid y)

theorem Instance.distinct_of_nodup {app : Instance} (h : (Table.ids .instances app).Nodup) :
    app.Distinct := by
  have hids := (List.nodup_cons.mp h).2
  obtain ⟨heach, hpairs⟩ := List.nodup_flatMap.mp hids
  have hservice : ∀ (group : GroupInstance), ∀ service ∈ group.services,
      service.serviceInstanceId ∈ group.ids :=
    fun _ service hmem => List.mem_cons_of_mem _ (List.mem_map_of_mem hmem)
  refine { groups := ?groups, services := ?services, apart := ?apart }
  case groups => exact nodup_map_of_flatMap (fun _ => List.mem_cons_self) hids
  case services =>
    intro group hmem
    exact (List.nodup_cons.mp (heach group hmem)).2
  case apart =>
    refine hpairs.imp fun {group other} hdisjoint service hmem service' hmem' heq => ?_
    exact hdisjoint (hservice group service hmem) (heq ▸ hservice other service' hmem')

/-- A service instance is in one group instance. -/
theorem Instance.Distinct.not_elsewhere {app : Instance} (h : app.Distinct)
    {before after : List GroupInstance} {group : GroupInstance}
    (hsplit : app.groups = before ++ group :: after) {service : ServiceInstance}
    (hservice : service ∈ group.services) :
    ∀ other ∈ before ++ after, ∀ service' ∈ other.services,
      service'.serviceInstanceId ≠ service.serviceInstanceId := by
  have hapart := h.apart
  rw [hsplit, List.pairwise_append, List.pairwise_cons] at hapart
  obtain ⟨-, ⟨hafter, -⟩, hbefore⟩ := hapart
  intro other hmem service' hservice'
  rcases List.mem_append.mp hmem with hmem | hmem
  · exact hbefore other hmem group List.mem_cons_self service' hservice' service hservice
  · exact (hafter other hmem service hservice service' hservice').symm

/-- The ids in a descriptor: no two groups share one, and no two services of a group. -/
structure Descriptor.Distinct (descriptor : Descriptor) : Prop where
  groups : (descriptor.groups.map (·.serviceGroupId)).Nodup
  services : ∀ group ∈ descriptor.groups, (group.services.map (·.serviceId)).Nodup

theorem Descriptor.distinct_of_nodup {descriptor : Descriptor}
    (h : (Table.ids .descriptors descriptor).Nodup) : descriptor.Distinct := by
  have hids := (List.nodup_append.mp (List.nodup_cons.mp h).2).2.1
  obtain ⟨heach, -⟩ := List.nodup_flatMap.mp hids
  exact ⟨nodup_map_of_flatMap (fun _ => List.mem_cons_self) hids,
    fun group hmem => (List.nodup_cons.mp (heach group hmem)).2⟩

/-- Without stops ids of group instances and of service instances differ, if ids do not repeat. -/
theorem Attained.distinct {start world : World Store} (hfresh : start.store.Fresh)
    (hinjective : Function.Injective start.ids.name) (h : Attained start world) {i : String}
    {app : Instance} (hrow : world.store.contents.row? .instances i = some app) : app.Distinct :=
  Instance.distinct_of_nodup ((h.assigned hfresh hinjective).nodup .instances i app hrow)

/-! ### Ids to come -/

/-- An id that was never drawn and stands in no row. -/
structure World.Unseen (world : World Store) (id : String) : Prop where
  undrawn : ¬ world.ids.Drawn id
  absent : ∀ table key row, world.store.contents.row? table key = some row → id ∉ table.ids row

/-- What is drawn next was never drawn before, nor is it in any row. -/
theorem Attained.unseen_of_issued {start world : World Store} (hfresh : start.store.Fresh)
    (hinjective : Function.Injective start.ids.name) (h : Attained start world) {after : IdSource}
    (hext : world.ids.Extends after) {id : String} (hid : world.ids.Issued after id) :
    world.Unseen id := by
  have hname : Function.Injective after.name := (h.extends.trans hext).name ▸ hinjective
  have hundrawn := hid.not_drawn hext hname
  refine ⟨hundrawn, fun table key row hrow hmem => hundrawn ?_⟩
  exact ((h.assigned hfresh hinjective).issued table key row hrow id hmem).drawn

end TenantRegistry
