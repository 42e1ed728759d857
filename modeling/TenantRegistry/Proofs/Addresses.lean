/-
TenantRegistry/Proofs/Addresses.lean

When an address can be registered.

A user is known by an email address.  It is added when no user has the address,
and then the address is entered into the index.  An organization that lists the
address already cannot enter it, and the user that was just stored is deleted
again.  So an address without a user can be registered if and only if the
organization does not list it.

An address is listed without a user after a removal of which the last call was
stopped.  Nothing brings it back: to remove the user again fails too, as there
is none.  With plain ids there is no other way for an address to get stuck.

Main result: `add_user_iff_unlisted`.
-/
import TenantRegistry.Proofs.Entries

namespace TenantRegistry

open Procedure

/-! ### Runs that add a user -/

namespace Users

/-- The user that a request asks for. -/
def requested (request : NewUser) (memberSince : Int64) : User :=
  { memberSince
    organizationId := request.organizationId
    email := request.email
    name := request.name }

/-- A user is added unless the organization lists the address. -/
theorem runWith_add {request : NewUser} (world : World Memory) (hvalid : request.validate = .ok ())
    (ho : world.store.row? .organizations request.organizationId ≠ none)
    (habsent : world.store.row? .users request.email = none) :
    (Users.add request).runWith .memory world =
      if world.store.hasChild request.organizationId .user request.email then
        (.error (.alreadyExists (.child .user request.email request.organizationId)), world)
      else (.ok (requested request world.clock), { world with
        store := (world.store.put .users (requested request world.clock)).enter
          request.organizationId .user request.email }) := by
  have hvalidate : (validate request.validate).runWith .memory world = (.ok (), world) := by
    rw [runWith_validate, valid_eq_ok.mpr hvalid]
  have horganization : (requireOrganization request.organizationId).runWith .memory world =
      (.ok (), world) := by
    rw [runWith_requireOrganization, Memory.requireOrganization_eq_ok.mpr ho]
  have hnow : now.runWith .memory world = (.ok world.clock, world) := rfl
  have hadd : (ChildKind.user.add request.organizationId (requested request world.clock)).runWith
      .memory world =
        if world.store.hasChild request.organizationId .user request.email then
          (.error (.alreadyExists (.child .user request.email request.organizationId)), world)
        else (.ok (), { world with
          store := (world.store.put .users (requested request world.clock)).enter
            request.organizationId .user request.email }) :=
    ChildKind.runWith_add ho habsent
  rw [Users.add, runWith_bind_ok hvalidate, runWith_bind_ok horganization, runWith_bind_ok hnow]
  split
  · next hlisted =>
    rw [if_pos hlisted] at hadd
    exact runWith_bind_error hadd
  · next hunlisted =>
    rw [if_neg hunlisted] at hadd
    exact runWith_bind_ok hadd

end Users

/-! ### Addresses -/

/-- **An address that no user has can be registered if and only if the organization does not list
it**, after operations of which any calls were stopped, from an empty registry.  Then the user can
be fetched.  An address that is listed can neither be registered nor removed; if ids are plain, an
earlier removal of it was stopped before its entry was deleted. -/
theorem add_user_iff_unlisted {start world : World Store} {events : List Event}
    (hfresh : start.store.Fresh) (h : Runs start events world) {request : NewUser}
    (hvalid : request.validate = .ok ())
    (ho : (world.store.perform (.contains .organizations request.organizationId)).1 = .ok true)
    (hfree : (world.store.perform (.contains .users request.email)).1 = .ok false) (time : Int64) :
    let listed :=
      (world.store.perform (.hasChild request.organizationId .user request.email)).1
    let ended := (Operation.addUser request).procedure.runWith .store (world.at time)
    (listed = .ok false →
      ended.1 = .ok (Users.requested request time) ∧
        ((Operation.get .user request.organizationId request.email).procedure.runWith .store
          ended.2).1 = .ok (Users.requested request time)) ∧
    (listed = .ok true →
      ended.1 = .error (.alreadyExists (.child .user request.email request.organizationId)) ∧
        ended.2.store.contents = world.store.contents ∧
        ((Operation.remove .user request.organizationId request.email).procedure.runWith .store
          (world.at time)).1 = .error (.notFound (.row .users request.email)) ∧
        ((∀ n, Plain (start.ids.name n)) →
          ∃ event ∈ events, event.LeavesEntry .user request.email)) := by
  intro listed ended
  obtain ⟨hfaithful, hkeyed⟩ := h.faithful hfresh
  have hat : (world.at time).store.Faithful := hfaithful
  have hthere : world.store.contents.row? .organizations request.organizationId ≠ none :=
    Option.isSome_iff_ne_none.mp (hfaithful.contains_eq_ok.mp ho)
  have habsent : world.store.contents.row? .users request.email = none :=
    Option.isNone_iff_eq_none.mp (Option.isSome_eq_false_iff.mp (hfaithful.contains_eq_ok.mp hfree))
  obtain ⟨hresult, hcontents, hafter⟩ :=
    Program.run_contents (Operation.addUser request).procedure.run hat
  have hrun := Users.runWith_add (world.at time).contents hvalid hthere habsent
  refine ⟨fun hunlisted => ?_, fun hlisted => ?_⟩
  · have hno :
        ¬ world.store.contents.hasChild request.organizationId .user request.email = true := by
      rw [hfaithful.hasChild_eq_ok.mp hunlisted]
      decide
    have hadded := hrun.trans (if_neg hno)
    have hstore : ended.2.store.contents = (world.store.contents.put .users
        (Users.requested request time)).enter request.organizationId .user request.email :=
      congrArg World.store (hcontents.trans (congrArg Prod.snd hadded))
    refine ⟨hresult.trans (congrArg Prod.fst hadded), ChildKind.runWith_get_of_fetched hafter ?_⟩
    rw [hstore]
    exact ⟨Memory.hasChild_enter_iff.mpr (Or.inl rfl), Memory.row?_put_of_key_eq rfl, rfl⟩
  · have hyes : world.store.contents.hasChild request.organizationId .user request.email = true :=
      hfaithful.hasChild_eq_ok.mp hlisted
    have hrefused := hrun.trans (if_pos hyes)
    refine ⟨hresult.trans (congrArg Prod.fst hrefused),
      congrArg World.store (hcontents.trans (congrArg Prod.snd hrefused)), ?_, fun hplain => ?_⟩
    · rw [runWith_contents _ hat]
      exact congrArg Prod.fst (ChildKind.runWith_remove_of_absent .user
        (world.at time).contents hyes habsent)
    · -- a listed address has its user, or its entry was left behind
      obtain ⟨-, hbacked⟩ := h.backed hfresh hplain
      refine (hbacked.owners _ .user _ (by decide) hyes).resolve_left fun howner => ?_
      cases (Memory.ownerAt_eq_none.mpr habsent).symm.trans howner

/-- The address of a user who was removed is stuck in the index, and can neither be registered nor
removed again. -/
theorem add_user_iff_unlisted_of_stopped_removal :
    let start : World Store := { store := .memory .empty, ids := .sequential "id", clock := 0 }
    let sam : NewUser := { organizationId := "id-1", email := "sam@mail.test", name := "Sam" }
    let steps : List (Operation × Int64 × List (Option StoreError)) :=
      [(.addOrganization { (default : NewOrganization) with name := "acme" }, 1, []),
        (.addUser sam, 2, []),
        (.remove .user "id-1" "sam@mail.test", 3, [none, none, some (.write "down")])]
    let world := start.afterStopping steps
    ∃ events, Runs start events world ∧ sam.validate = .ok () ∧
      (world.store.perform (.contains .users "sam@mail.test")).1 = .ok false ∧
      ((Operation.addUser sam).procedure.runWith .store (world.at 4)).1 =
        .error (.alreadyExists (.child .user "sam@mail.test" "id-1")) ∧
      ((Operation.remove .user "id-1" "sam@mail.test").procedure.runWith .store (world.at 4)).1 =
        .error (.notFound (.row .users "sam@mail.test")) ∧
      ∃ event ∈ events, event.LeavesEntry .user "sam@mail.test" := by
  intro start sam steps world
  have hstart : Runs start [] start := .start
  obtain ⟨events, hruns⟩ := hstart.afterStopping steps
  have hvalid : sam.validate = .ok () := by decide +kernel
  have ho : (world.store.perform (.contains .organizations "id-1")).1 = .ok true := by
    decide +kernel
  have hfree : (world.store.perform (.contains .users "sam@mail.test")).1 = .ok false := by
    decide +kernel
  have hlisted : (world.store.perform (.hasChild "id-1" .user "sam@mail.test")).1 = .ok true := by
    decide +kernel
  have hplain : ∀ n, Plain (start.ids.name n) := IdSource.plain_sequential (by decide)
  obtain ⟨-, hstuck⟩ :=
    add_user_iff_unlisted (Or.inl rfl) hruns hvalid ho hfree 4
  obtain ⟨hrefused, -, hremoved, hleft⟩ := hstuck hlisted
  exact ⟨events, hruns, hvalid, hfree, hrefused, hremoved, hleft hplain⟩

end TenantRegistry
