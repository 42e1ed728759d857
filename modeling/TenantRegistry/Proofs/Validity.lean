/-
TenantRegistry/Proofs/Validity.lean

What a valid request looks like.

The rules for requests are programs that stop at the first violation.  Here each
of them is read as a property: a rule is passed if and only if the property holds.
A list is passed element by element, and the two loops over groups and services,
which remember the names that they saw, say of the rest of the list that its names
are distinct and none of them was seen (`validateServices_eq_ok_iff`,
`validateGroups_eq_ok_iff`).

Main result: `validateServiceGroups_eq_ok_iff`.
-/
import Mathlib.Data.List.Nodup
import TenantRegistry.Proofs.Except
import TenantRegistry.Validation

namespace TenantRegistry

/-! ### Shapes -/

/-- A text with more in it than white space. -/
def NonBlank (text : String) : Prop := ∃ c ∈ text.toList, isBlankChar c = false

/-- A text by which something can be asked for. -/
structure IsIdentifier (text : String) : Prop where
  nonempty : text ≠ ""
  plain : '/' ∉ text.toList

/-- One of 1 to 65535. -/
def IsPort (port : UInt32) : Prop := 1 ≤ port.toNat ∧ port.toNat ≤ 65535

/-- A service that can be run. -/
structure Service.WellFormed (service : Service) : Prop where
  name : NonBlank service.name
  image : NonBlank service.image
  ports : ∀ port ∈ service.exposedPorts, IsPort port.internalPort ∧ IsPort port.exposedPort

/-- A group of services that can be told apart. -/
structure ServiceGroup.WellFormed (group : ServiceGroup) : Prop where
  name : NonBlank group.name
  nonempty : group.services ≠ []
  services : ∀ service ∈ group.services, service.WellFormed
  distinct : (group.services.map (·.name)).Nodup

/-- Groups that can be told apart, and at least one. -/
structure WellFormedGroups (groups : List ServiceGroup) : Prop where
  nonempty : groups ≠ []
  each : ∀ group ∈ groups, group.WellFormed
  distinct : (groups.map (·.name)).Nodup

/-- A rule with a name and a target. -/
structure SecurityRule.WellFormed (rule : SecurityRule) : Prop where
  name : NonBlank rule.name
  port : IsPort rule.targetPort

/-- An address that can be reached. -/
structure EndpointInstance.WellFormed (endpoint : EndpointInstance) : Prop where
  fqdn : NonBlank endpoint.fqdn
  port : IsPort endpoint.port

/-- A request for 1 to 1024 group instances. -/
structure NewGroupInstances.WellFormed (request : NewGroupInstances) : Prop where
  organization : IsIdentifier request.organizationId
  descriptor : IsIdentifier request.descriptorId
  app : IsIdentifier request.instanceId
  group : IsIdentifier request.serviceGroupId
  replicas : 1 ≤ request.replicaCount.toNat ∧ request.replicaCount.toNat ≤ 1024

/-- A request for a service instance. -/
structure NewServiceInstance.WellFormed (request : NewServiceInstance) : Prop where
  organization : IsIdentifier request.organizationId
  descriptor : IsIdentifier request.descriptorId
  app : IsIdentifier request.instanceId
  group : IsIdentifier request.serviceGroupId
  groupInstance : IsIdentifier request.groupInstanceId
  service : IsIdentifier request.serviceId

/-- A report on a service instance that can be reached. -/
structure StatusReport.WellFormed (request : StatusReport) : Prop where
  organization : IsIdentifier request.organizationId
  app : IsIdentifier request.instanceId
  groupInstance : IsIdentifier request.groupInstanceId
  serviceInstance : IsIdentifier request.serviceInstanceId
  endpoints : ∀ endpoint ∈ request.endpoints, endpoint.WellFormed

/-! ### Rules -/

theorem ensure_eq_ok_iff {condition : Prop} [Decidable condition] {otherwise : Violation} :
    ensure condition otherwise = .ok () ↔ condition := by
  rw [ensure]
  split
  · next h => exact iff_of_true rfl h
  · next h => exact iff_of_false nofun h

theorem ensureIdentifier_eq_ok_iff {field value : String} :
    ensureIdentifier field value = .ok () ↔ IsIdentifier value := by
  rw [ensureIdentifier, both_eq_ok_iff, ensure_eq_ok_iff, ensure_eq_ok_iff]
  exact ⟨fun h => ⟨h.1, h.2⟩, fun h => ⟨h.nonempty, h.plain⟩⟩

theorem ensureEach_eq_ok_iff {α : Type} {rule : α → Except Violation Unit} {xs : List α} :
    ensureEach rule xs = .ok () ↔ ∀ x ∈ xs, rule x = .ok () := by
  induction xs with
  | nil => exact iff_of_true rfl (List.forall_mem_nil _)
  | cons x xs ih => rw [ensureEach, both_eq_ok_iff, ih, List.forall_mem_cons]

theorem ensureText_eq_ok_iff {field value : String} :
    ensureText field value = .ok () ↔ NonBlank value := by
  rw [ensureText, ensure_eq_ok_iff, isBlank, List.all_eq_false]
  simp only [NonBlank, Bool.not_eq_true]

theorem ensurePort_eq_ok_iff {field : String} {port : UInt32} :
    ensurePort field port = .ok () ↔ IsPort port := by
  rw [ensurePort, ensure_eq_ok_iff, IsPort]

theorem Port.validate_eq_ok_iff {port : Port} :
    port.validate = .ok () ↔ IsPort port.internalPort ∧ IsPort port.exposedPort := by
  rw [Port.validate, both_eq_ok_iff, ensurePort_eq_ok_iff, ensurePort_eq_ok_iff]

theorem SecurityRule.validate_eq_ok_iff {rule : SecurityRule} :
    rule.validate = .ok () ↔ rule.WellFormed := by
  rw [SecurityRule.validate, both_eq_ok_iff, ensureText_eq_ok_iff, ensurePort_eq_ok_iff]
  exact ⟨fun h => ⟨h.1, h.2⟩, fun h => ⟨h.name, h.port⟩⟩

theorem EndpointInstance.validate_eq_ok_iff {endpoint : EndpointInstance} :
    endpoint.validate = .ok () ↔ endpoint.WellFormed := by
  rw [EndpointInstance.validate, both_eq_ok_iff, ensureText_eq_ok_iff, ensurePort_eq_ok_iff]
  exact ⟨fun h => ⟨h.1, h.2⟩, fun h => ⟨h.fqdn, h.port⟩⟩

theorem NewGroupInstances.validate_eq_ok_iff {request : NewGroupInstances} :
    request.validate = .ok () ↔ request.WellFormed := by
  have hcount : (1 ≤ request.replicaCount ∧ request.replicaCount ≤ maxReplicas) ↔
      1 ≤ request.replicaCount.toNat ∧ request.replicaCount.toNat ≤ 1024 := Iff.rfl
  simp only [NewGroupInstances.validate, both_eq_ok_iff, ensureIdentifier_eq_ok_iff,
    ensure_eq_ok_iff, hcount]
  exact ⟨fun ⟨ho, hd, hi, hg, hcount⟩ => ⟨ho, hd, hi, hg, hcount⟩,
    fun h => ⟨h.organization, h.descriptor, h.app, h.group, h.replicas⟩⟩

theorem NewServiceInstance.validate_eq_ok_iff {request : NewServiceInstance} :
    request.validate = .ok () ↔ request.WellFormed := by
  simp only [NewServiceInstance.validate, both_eq_ok_iff, ensureIdentifier_eq_ok_iff]
  exact ⟨fun ⟨ho, hd, hi, hg, hgi, hs⟩ => ⟨ho, hd, hi, hg, hgi, hs⟩,
    fun h => ⟨h.organization, h.descriptor, h.app, h.group, h.groupInstance, h.service⟩⟩

theorem StatusReport.validate_eq_ok_iff {request : StatusReport} :
    request.validate = .ok () ↔ request.WellFormed := by
  simp only [StatusReport.validate, both_eq_ok_iff, ensureIdentifier_eq_ok_iff,
    ensureEach_eq_ok_iff, EndpointInstance.validate_eq_ok_iff]
  exact ⟨fun ⟨ho, hi, hg, hs, hendpoints⟩ => ⟨ho, hi, hg, hs, hendpoints⟩,
    fun h => ⟨h.organization, h.app, h.groupInstance, h.serviceInstance, h.endpoints⟩⟩

/-! ### Service groups -/

/-- What a loop that remembers names says of a list, by its first element and the rest. -/
theorem distinct_cons_iff {α : Type} {name : α → String} {valid : α → Prop} {seen : List String}
    {x : α} {xs : List α} :
    (∀ y ∈ x :: xs, valid y ∧ name y ∉ seen) ∧ ((x :: xs).map name).Nodup ↔
      (valid x ∧ name x ∉ seen) ∧ (∀ y ∈ xs, valid y ∧ name y ∉ name x :: seen) ∧
        (xs.map name).Nodup := by
  rw [List.forall_mem_cons, List.map_cons, List.nodup_cons]
  simp only [List.mem_map, List.mem_cons, not_or, not_exists, not_and]
  constructor
  · rintro ⟨⟨hx, hxs⟩, hnew, hdistinct⟩
    exact ⟨hx, fun y hy => ⟨(hxs y hy).1, hnew y hy, (hxs y hy).2⟩, hdistinct⟩
  · rintro ⟨hx, hxs, hdistinct⟩
    exact ⟨⟨hx, fun y hy => ⟨(hxs y hy).1, (hxs y hy).2.2⟩⟩, fun y hy => (hxs y hy).2.1, hdistinct⟩

/-- Services are passed if they are well-formed, their names are distinct, and none was seen. -/
theorem validateServices_eq_ok_iff {groupName : String} {seen : List String}
    {services : List Service} : validateServices groupName seen services = .ok () ↔
      (∀ service ∈ services, service.WellFormed ∧ service.name ∉ seen) ∧
        (services.map (·.name)).Nodup := by
  induction services generalizing seen with
  | nil => exact iff_of_true rfl ⟨List.forall_mem_nil _, List.nodup_nil⟩
  | cons service rest ih =>
    have hservice : (NonBlank service.name ∧ NonBlank service.image ∧ service.name ∉ seen ∧
        ∀ port ∈ service.exposedPorts, IsPort port.internalPort ∧ IsPort port.exposedPort) ↔
        service.WellFormed ∧ service.name ∉ seen :=
      ⟨fun ⟨hname, himage, hnew, hports⟩ => ⟨⟨hname, himage, hports⟩, hnew⟩,
        fun ⟨h, hnew⟩ => ⟨h.name, h.image, hnew, h.ports⟩⟩
    rw [validateServices, both_eq_ok_iff, both_eq_ok_iff, both_eq_ok_iff, both_eq_ok_iff,
      ensureText_eq_ok_iff, ensureText_eq_ok_iff, ensure_eq_ok_iff, ensureEach_eq_ok_iff, ih,
      distinct_cons_iff, ← hservice]
    simp only [Port.validate_eq_ok_iff, and_assoc]

/-- Groups are passed if they are well-formed, their names are distinct, and none was seen. -/
theorem validateGroups_eq_ok_iff {seen : List String} {groups : List ServiceGroup} :
    validateGroups seen groups = .ok () ↔
      (∀ group ∈ groups, group.WellFormed ∧ group.name ∉ seen) ∧
        (groups.map (·.name)).Nodup := by
  induction groups generalizing seen with
  | nil => exact iff_of_true rfl ⟨List.forall_mem_nil _, List.nodup_nil⟩
  | cons group rest ih =>
    have hgroup : (NonBlank group.name ∧ group.name ∉ seen ∧ group.services ≠ [] ∧
        (∀ service ∈ group.services, service.WellFormed) ∧
          (group.services.map (·.name)).Nodup) ↔ group.WellFormed ∧ group.name ∉ seen :=
      ⟨fun ⟨hname, hnew, hsome, hservices, hdistinct⟩ =>
          ⟨⟨hname, hsome, hservices, hdistinct⟩, hnew⟩,
        fun ⟨h, hnew⟩ => ⟨h.name, hnew, h.nonempty, h.services, h.distinct⟩⟩
    rw [validateGroups, both_eq_ok_iff, both_eq_ok_iff, both_eq_ok_iff, both_eq_ok_iff,
      ensureText_eq_ok_iff, ensure_eq_ok_iff, ensure_eq_ok_iff, validateServices_eq_ok_iff, ih,
      distinct_cons_iff, ← hgroup]
    simp only [List.not_mem_nil, not_false_eq_true, and_true, and_assoc]

/-- **Groups are valid if and only if they are well-formed.** -/
theorem validateServiceGroups_eq_ok_iff {groups : List ServiceGroup} :
    validateServiceGroups groups = .ok () ↔ WellFormedGroups groups := by
  rw [validateServiceGroups, both_eq_ok_iff, ensure_eq_ok_iff, validateGroups_eq_ok_iff]
  simp only [List.not_mem_nil, not_false_eq_true, and_true]
  exact ⟨fun ⟨hsome, hgroups, hdistinct⟩ => ⟨hsome, hgroups, hdistinct⟩,
    fun h => ⟨h.nonempty, h.each, h.distinct⟩⟩

end TenantRegistry
