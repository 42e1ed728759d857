/-
TenantRegistry/Proofs/Drawing.lean

Ids that an operation draws.

A source hands out its ids in order, and so what a program draws is a stretch
of them.  `Draws` says so of a program that does nothing else in between;
`Gave` only says that the stretch lies between two states of a source, which
stays true when more is drawn before and after it.  Ids of one stretch are
different from each other, and from all that were drawn before, if the source
does not repeat itself.

Groups, services and rules of a descriptor are given fresh ids when they are
written.  `ServiceGroup.ids` lists those of a group in the order in which they
are drawn.
-/
import TenantRegistry.Proofs.Ending
import TenantRegistry.Registry.Descriptors

namespace TenantRegistry

open Procedure

/-! ### Stretches of ids -/

namespace IdSource

/-- `before.Draws given after`: the given ids are the next ones of the source `before`, in order,
and `after` is left of it. -/
inductive Draws : IdSource → List String → IdSource → Prop
  | nil (ids : IdSource) : Draws ids [] ids
  | cons {ids after : IdSource} {given : List String} (h : Draws ids.rest given after) :
      Draws ids (ids.next :: given) after

variable {before middle after : IdSource} {given more : List String}

theorem Draws.append (h : before.Draws given middle) (h' : middle.Draws more after) :
    before.Draws (given ++ more) after := by
  induction h with
  | nil ids => exact h'
  | cons _ ih => exact .cons (ih h')

theorem Draws.extends (h : before.Draws given after) : before.Extends after := by
  induction h with
  | nil ids => exact .refl ids
  | @cons ids _ _ _ ih => exact ids.extends_rest.trans ih

theorem Draws.issued (h : before.Draws given after) : ∀ id ∈ given, before.Issued after id := by
  induction h with
  | nil ids => exact fun id hmem => absurd hmem List.not_mem_nil
  | @cons ids after given hrest ih =>
    intro id hmem
    rcases List.mem_cons.mp hmem with rfl | hmem
    · exact issued_next hrest.extends
    · exact (ih id hmem).mono ids.extends_rest

/-- Ids of one stretch are different from each other. -/
theorem Draws.nodup (h : before.Draws given after) (hinjective : Function.Injective after.name) :
    given.Nodup := by
  induction h with
  | nil ids => exact List.nodup_nil
  | @cons ids after given hrest ih =>
    refine List.nodup_cons.mpr ⟨fun hmem => ?_, ih hinjective⟩
    -- the first id was drawn before all others
    have hdrawn : ids.rest.Drawn ids.next := ⟨ids.drawn, Nat.lt_succ_self _, rfl⟩
    exact (hrest.issued _ hmem).not_drawn hrest.extends hinjective hdrawn

/-- The given ids are a stretch of those drawn between two states of a source. -/
def Gave (before after : IdSource) (given : List String) : Prop :=
  ∃ first last, before.Extends first ∧ first.Draws given last ∧ last.Extends after

theorem Draws.gave (h : before.Draws given after) : before.Gave after given :=
  ⟨before, after, .refl _, h, .refl _⟩

/-- Nothing is a stretch of whatever was drawn. -/
theorem Extends.gave_nil (h : before.Extends after) : before.Gave after [] :=
  ⟨before, before, .refl before, .nil before, h⟩

/-- More was drawn before and after. -/
theorem Gave.mono {earlier later : IdSource} (h : before.Gave after given)
    (hbefore : earlier.Extends before) (hafter : after.Extends later) :
    earlier.Gave later given := by
  obtain ⟨first, last, hfirst, hdraws, hlast⟩ := h
  exact ⟨first, last, hbefore.trans hfirst, hdraws, hlast.trans hafter⟩

theorem Gave.issued (h : before.Gave after given) : ∀ id ∈ given, before.Issued after id := by
  obtain ⟨first, last, hfirst, hdraws, hlast⟩ := h
  exact fun id hmem => ((hdraws.issued id hmem).mono hfirst).extend hlast

theorem Gave.nodup (h : before.Gave after given) (hinjective : Function.Injective after.name) :
    given.Nodup := by
  obtain ⟨first, last, -, hdraws, hlast⟩ := h
  exact hdraws.nodup (hlast.name ▸ hinjective)

/-- A part of a stretch that stands at its end. -/
theorem Gave.of_append (h : before.Gave after (given ++ more)) : before.Gave after more := by
  obtain ⟨first, last, hfirst, hdraws, hlast⟩ := h
  induction given generalizing first with
  | nil => exact ⟨first, last, hfirst, hdraws, hlast⟩
  | cons id given ih =>
    cases hdraws with
    | cons hdraws => exact ih first.rest (hfirst.trans first.extends_rest) hdraws

end IdSource

/-! ### Programs that draw -/

section Programs

variable {σ α β : Type} {backend : Backend σ} {world world' : World σ} {trace : List Attempt}

theorem draws_freshId {id : String} (h : freshId.Ends backend world trace (.ok id) world') :
    world.ids.Draws [id] world'.ids := by
  obtain ⟨-, hid, rfl⟩ := ends_freshId h
  cases hid
  exact .cons (.nil _)

theorem draws_freshIds {count : Nat} {given : List String}
    (h : (freshIds count).Ends backend world trace (.ok given) world') :
    world.ids.Draws given world'.ids ∧ given.length = count := by
  induction count generalizing given world trace with
  | zero =>
    obtain ⟨-, hgiven, rfl⟩ := ends_pure h
    cases hgiven
    exact ⟨.nil _, rfl⟩
  | succ count ih =>
    obtain ⟨id, w₁, t₁, t, hid, h, -⟩ := ends_bind_ok h
    obtain ⟨rest, w₂, t₂, t₃, hrest, h, -⟩ := ends_bind_ok h
    obtain ⟨-, hgiven, rfl⟩ := ends_pure h
    cases hgiven
    obtain ⟨hdraws, rfl⟩ := ih hrest
    exact ⟨(draws_freshId hid).append hdraws, rfl⟩

/-- What is drawn for the elements of a list is drawn for one after another. -/
theorem draws_mapM {f : α → Procedure β} {ids : β → List String}
    (hf : ∀ x world trace y world', (f x).Ends backend world trace (.ok y) world' →
      world.ids.Draws (ids y) world'.ids) {xs : List α} {ys : List β}
    (h : (xs.mapM f).Ends backend world trace (.ok ys) world') :
    world.ids.Draws (ys.flatMap ids) world'.ids := by
  induction xs generalizing ys world trace with
  | nil =>
    rw [List.mapM_nil] at h
    obtain ⟨-, hys, rfl⟩ := ends_pure h
    cases hys
    exact .nil _
  | cons x xs ih =>
    rw [List.mapM_cons] at h
    obtain ⟨y, w₁, t₁, t, hy, h, -⟩ := ends_bind_ok h
    obtain ⟨rest, w₂, t₂, t₃, hrest, h, -⟩ := ends_bind_ok h
    obtain ⟨-, hys, rfl⟩ := ends_pure h
    cases hys
    exact (hf _ _ _ _ _ hy).append (ih hrest)

end Programs

/-! ### Fresh ids in a descriptor -/

/-- The ids in a group, in the order in which they are drawn. -/
def ServiceGroup.ids (group : ServiceGroup) : List String :=
  group.serviceGroupId :: group.services.map (·.serviceId)

section Renewals

variable {σ : Type} {backend : Backend σ} {world world' : World σ} {trace : List Attempt}

theorem draws_renewed_rule {rule renewed : SecurityRule}
    (h : rule.renewed.Ends backend world trace (.ok renewed) world') :
    world.ids.Draws [renewed.ruleId] world'.ids := by
  obtain ⟨id, w₁, t₁, t₂, hid, h, -⟩ := ends_bind_ok h
  obtain ⟨-, hrenewed, rfl⟩ := ends_pure h
  cases hrenewed
  exact draws_freshId hid

theorem draws_renewed_service {service renewed : Service}
    (h : service.renewed.Ends backend world trace (.ok renewed) world') :
    world.ids.Draws [renewed.serviceId] world'.ids := by
  obtain ⟨id, w₁, t₁, t₂, hid, h, -⟩ := ends_bind_ok h
  obtain ⟨-, hrenewed, rfl⟩ := ends_pure h
  cases hrenewed
  exact draws_freshId hid

/-- **A group draws its own id, and then one for each of its services.** -/
theorem draws_renewed_group {group renewed : ServiceGroup}
    (h : group.renewed.Ends backend world trace (.ok renewed) world') :
    world.ids.Draws renewed.ids world'.ids := by
  obtain ⟨id, w₁, t₁, t, hid, h, -⟩ := ends_bind_ok h
  obtain ⟨services, w₂, t₂, t₃, hservices, h, -⟩ := ends_bind_ok h
  obtain ⟨-, hrenewed, rfl⟩ := ends_pure h
  cases hrenewed
  have hdraws : w₁.ids.Draws (services.flatMap fun service => [service.serviceId]) world'.ids :=
    draws_mapM (fun _ _ _ _ _ hservice => draws_renewed_service hservice) hservices
  rw [← List.map_eq_flatMap] at hdraws
  exact (draws_freshId hid).append hdraws

theorem draws_renewed_rules {rules renewed : List SecurityRule}
    (h : (rules.mapM SecurityRule.renewed).Ends backend world trace (.ok renewed) world') :
    world.ids.Draws (renewed.map (·.ruleId)) world'.ids := by
  rw [List.map_eq_flatMap]
  exact draws_mapM (fun _ _ _ _ _ hrule => draws_renewed_rule hrule) h

theorem draws_renewed_groups {groups renewed : List ServiceGroup}
    (h : (groups.mapM ServiceGroup.renewed).Ends backend world trace (.ok renewed) world') :
    world.ids.Draws (renewed.flatMap ServiceGroup.ids) world'.ids :=
  draws_mapM (fun _ _ _ _ _ hgroup => draws_renewed_group hgroup) h

end Renewals

end TenantRegistry
