/-
TenantRegistry/Proofs/OrganizationNames.lean

No two organizations have one name.

The registry keeps no table of names.  Before an organization is written, all
organizations are scanned for the name that it is to have, and the scan is left
out if that is the name it has.  Two operations write organizations
(`Effect.organizations`), each as its last call, so what the scan found still
holds when the name is taken (`Operation.namesApart`), and if the call is
stopped nothing was written.  Ids that repeat do no harm: an organization under an id that is in
use is refused.

As names are apart, the scan before an edit finds nobody but an organization
that holds the name, and never the one that is edited.  So an edit is refused
for its name if and only if another organization has it.

Main result: `names_held_once`.
-/
import TenantRegistry.Proofs.Runs

namespace TenantRegistry

open Procedure

variable {world world' : World Memory} {trace : List Attempt} {operation : Operation}
  {succeeded : Bool}

/-! ### Names that are free -/

namespace Memory

variable {memory : Memory} {name : String} {excepted : Option String}

/-- No organization has a name, the excepted one aside. -/
def NameFree (memory : Memory) (name : String) (excepted : Option String) : Prop :=
  ∀ ⦃key : String⦄ ⦃other : Organization⦄, memory.row? .organizations key = some other →
    other.name = name → some other.organizationId = excepted

/-- No organization has the name of another. -/
def NamesApart (memory : Memory) : Prop :=
  ∀ ⦃key : String⦄ ⦃organization : Organization⦄,
    memory.row? .organizations key = some organization →
    memory.NameFree organization.name (some organization.organizationId)

/-- A name that is free for a newcomer is free for everyone. -/
theorem NameFree.of_none (h : memory.NameFree name none) (excepted : Option String) :
    memory.NameFree name excepted :=
  fun _ _ hrow hname => absurd (h hrow hname) nofun

/-- A scan of the organizations finds a name if it is not free. -/
theorem any_named_iff :
    ((memory.rows .organizations).values.any fun other : Organization =>
      other.name = name ∧ some other.organizationId ≠ excepted) = true ↔
        ¬ memory.NameFree name excepted := by
  simp only [NameFree, row?, List.any_eq_true, OrderedMap.mem_values_iff, decide_eq_true_eq,
    not_forall, exists_prop]
  constructor
  · rintro ⟨other, ⟨key, hrow⟩, hname, hother⟩
    exact ⟨key, other, hrow, hname, hother⟩
  · rintro ⟨key, other, hrow, hname, hother⟩
    exact ⟨other, ⟨key, hrow⟩, hname, hother⟩

theorem namesApart_empty : empty.NamesApart := by
  intro key organization hrow
  rw [row?_empty] at hrow
  cases hrow

theorem NamesApart.of_same {after : Memory} (h : memory.NamesApart)
    (hsame : after.rows .organizations = memory.rows .organizations) : after.NamesApart := by
  intro key organization hrow key' other hother
  rw [row?, hsame] at hrow hother
  exact h hrow hother

/-- **An organization whose name is free may be written.** -/
theorem NamesApart.put (h : memory.NamesApart) {written : Organization}
    (hfree : memory.NameFree written.name (some written.organizationId)) :
    (memory.put .organizations written).NamesApart := by
  have hrows : ∀ {key : String} {organization : Organization},
      (memory.put .organizations written).row? .organizations key = some organization →
      organization = written ∨ memory.row? .organizations key = some organization := by
    intro key organization hrow
    rw [row?_put_self] at hrow
    split at hrow
    · exact Or.inl (Option.some.inj hrow).symm
    · exact Or.inr hrow
  intro key organization hrow key' other hother hname
  rcases hrows hrow with rfl | hthere <;> rcases hrows hother with rfl | hthere'
  · rfl
  · exact hfree hthere' hname
  · exact (hfree hthere hname.symm).symm
  · exact h hthere hthere' hname

/-- A name is free for an organization that has it, and for one that an edit is made of. -/
theorem NamesApart.free_of_edit (h : memory.NamesApart) {edit : OrganizationEdit} {key : String}
    {before : Organization} (hbefore : memory.row? .organizations key = some before)
    (hfree : ∀ name ∈ edit.name, name ≠ before.name →
      memory.NameFree name (some before.organizationId)) :
    memory.NameFree (edit.apply before).name (some (edit.apply before).organizationId) := by
  show memory.NameFree (edit.name.getD before.name) (some before.organizationId)
  cases hname : edit.name with
  | none => exact h hbefore
  | some name =>
    by_cases hsame : name = before.name
    · exact hsame ▸ h hbefore
    · exact hfree name hname hsame

/-- Names that are apart occur once in a listing. -/
theorem NamesApart.nodup (h : memory.NamesApart) (hkeyed : memory.Keyed) :
    ((memory.rows .organizations).values.map Organization.name).Nodup := by
  refine OrderedMap.nodup_map_values fun key key' organization other hrow hother hname => ?_
  have hid : organization.organizationId = key := hkeyed _ _ _ hrow
  have hid' : other.organizationId = key' := hkeyed _ _ _ hother
  rw [← hid, ← hid']
  exact Option.some.inj (h hother hrow hname)

end Memory

/-! ### Scans before a write -/

namespace Organizations

variable {name : String} {excepted : Option String}

/-- A scan answers by what it finds in the organizations. -/
theorem runWith_requireFreeName (world : World Memory) :
    (requireFreeName name excepted).runWith .memory world =
      ((if (world.store.rows .organizations).values.any fun other : Organization =>
          other.name = name ∧ some other.organizationId ≠ excepted then
        throw (.alreadyExists (.organizationNamed name))
      else return () : Procedure Unit)).runWith .memory world := by
  have hlist : Memory.perform (.list .organizations) world.store =
    (.ok (world.store.rows .organizations).values, world.store) := rfl
  rw [requireFreeName, runWith_bind_ok (runWith_perform hlist)]

/-- A scan passes if the name is free. -/
theorem runWith_requireFreeName_of_free (world : World Memory)
    (h : world.store.NameFree name excepted) :
    (requireFreeName name excepted).runWith .memory world = (.ok (), world) := by
  rw [runWith_requireFreeName, if_neg (mt Memory.any_named_iff.mp (not_not_intro h))]
  rfl

/-- A scan fails if the name is taken. -/
theorem runWith_requireFreeName_of_taken (world : World Memory)
    (h : ¬ world.store.NameFree name excepted) :
    (requireFreeName name excepted).runWith .memory world =
      (.error (.alreadyExists (.organizationNamed name)), world) := by
  rw [runWith_requireFreeName, if_pos (Memory.any_named_iff.mpr h)]
  rfl

/-- **A name that passed a scan was free**, whatever calls were stopped. -/
theorem ends_requireFreeName_ok
    (h : (requireFreeName name excepted).Ends .memory world trace (.ok ()) world') :
    world.store.NameFree name excepted := by
  obtain ⟨found, w₁, _, _, hlist, hrest, -⟩ := ends_bind_ok h
  obtain ⟨hanswer, -, -⟩ := ends_perform_ok hlist
  cases hanswer
  split at hrest
  · cases (ends_throw hrest).2.1
  · next hpassed => exact not_not.mp (mt Memory.any_named_iff.mpr hpassed)

/-- The name that an edit is scanned for: one that the organization does not have. -/
theorem newName_eq_some {edit : OrganizationEdit} {organization : Organization}
    (hname : edit.name = some name) (hnew : name ≠ organization.name) :
    edit.name.filter (· ≠ organization.name) = some name :=
  Option.filter_eq_some_iff.mpr ⟨hname, decide_eq_true hnew⟩

theorem reads_newName (edit : OrganizationEdit) (organization : Organization) :
    ((edit.name.filter (· ≠ organization.name)).forM fun name =>
      requireFreeName name (some organization.organizationId)).Reads := by
  cases edit.name.filter (· ≠ organization.name) with
  | none => exact reads_pure _
  | some name => exact reads_requireFreeName _ _

/-- An addition that succeeds wrote its answer, whose name was free. -/
theorem ends_add_ok {request : NewOrganization} {answer : Organization}
    (h : (add request).Ends .memory world trace (.ok answer) world') :
    world.store.NameFree answer.name none ∧
      world'.store = world.store.put .organizations answer := by
  obtain ⟨⟨⟩, w₁, _, _, hvalid, h, -⟩ := ends_bind_ok h
  obtain ⟨⟨⟩, w₂, _, _, hscan, h, -⟩ := ends_bind_ok h
  obtain ⟨organizationId, w₃, _, _, hid, h, -⟩ := ends_bind_ok h
  obtain ⟨created, w₄, _, _, hnow, h, -⟩ := ends_bind_ok h
  obtain ⟨⟨⟩, w₅, _, _, hadd, h, -⟩ := ends_bind_ok h
  have hvalidated := (reads_validate _).looked hvalid
  have hscanned := (reads_requireFreeName _ _).looked hscan
  obtain ⟨-, -, rfl⟩ := ends_freshId hid
  obtain ⟨-, -, rfl⟩ := ends_now hnow
  obtain ⟨haccepted, -, rfl⟩ := ends_perform_ok hadd
  obtain ⟨-, hanswer, rfl⟩ := ends_pure h
  cases hanswer
  have hfree := ends_requireFreeName_ok hscan
  rw [hvalidated.store] at hfree
  refine ⟨hfree, (Memory.add_accepted haccepted).2.trans ?_⟩
  rw [← hvalidated.store, ← hscanned.store]

/-- An edit that succeeds kept the name that the organization had, or one that was free. -/
theorem ends_update_ok {edit : OrganizationEdit} {answer : Organization}
    (h : (update edit).Ends .memory world trace (.ok answer) world') :
    ∃ before, world.store.row? .organizations edit.organizationId = some before ∧
      (∀ name ∈ edit.name, name ≠ before.name →
        world.store.NameFree name (some before.organizationId)) ∧
      world'.store = world.store.put .organizations (edit.apply before) := by
  obtain ⟨⟨⟩, w₁, _, _, hvalid, h, -⟩ := ends_bind_ok h
  obtain ⟨before, w₂, _, _, hget, h, -⟩ := ends_bind_ok h
  obtain ⟨⟨⟩, w₃, _, _, hscan, h, -⟩ := ends_bind_ok h
  obtain ⟨⟨⟩, w₄, _, _, hupdate, h, -⟩ := ends_bind_ok h
  have hvalidated := (reads_validate _).looked hvalid
  have hlooked := hvalidated.trans
    ((reads_perform (.get .organizations edit.organizationId) trivial).looked hget)
  have hscanned := (reads_newName edit before).looked hscan
  obtain ⟨haccepted, -, rfl⟩ := ends_perform_ok hupdate
  obtain ⟨-, -, rfl⟩ := ends_pure h
  have hbefore := ends_get_ok hget
  rw [hvalidated.store] at hbefore
  refine ⟨before, hbefore, ?_, (Memory.update_accepted haccepted).2.trans ?_⟩
  · intro name hname hnew
    rw [newName_eq_some hname hnew] at hscan
    have hfree := ends_requireFreeName_ok hscan
    rwa [hlooked.store] at hfree
  · rw [hscanned.store, hlooked.store]

/-- An edit in a world without faults, once its scan is known. -/
theorem runWith_update {edit : OrganizationEdit} {before : Organization} {world : World Memory}
    (hvalid : edit.validate = .ok ())
    (hbefore : world.store.row? .organizations edit.organizationId = some before) :
    (update edit).runWith .memory world =
      Procedure.runWith .memory (do
        (edit.name.filter (· ≠ before.name)).forM fun name =>
          requireFreeName name (some before.organizationId)
        perform (.update .organizations (edit.apply before))
        return edit.apply before) world := by
  have hchecked : (validate edit.validate).runWith .memory world = (.ok (), world) := by
    rw [hvalid]
    rfl
  have hfetched : (get edit.organizationId).runWith .memory world = (.ok before, world) := by
    refine runWith_perform ?_
    show world.store.perform _ = _
    rw [Memory.perform_get, hbefore]
    rfl
  rw [update, runWith_bind_ok hchecked, runWith_bind_ok hfetched]

/-- **An edit is refused if its name is a new one that is taken.** -/
theorem runWith_update_of_taken {edit : OrganizationEdit} {before : Organization} {name : String}
    {world : World Memory} (hvalid : edit.validate = .ok ())
    (hbefore : world.store.row? .organizations edit.organizationId = some before)
    (hname : edit.name = some name) (hnew : name ≠ before.name)
    (htaken : ¬ world.store.NameFree name (some before.organizationId)) :
    ((update edit).runWith .memory world).1 =
      .error (.alreadyExists (.organizationNamed name)) := by
  rw [runWith_update hvalid hbefore, newName_eq_some hname hnew]
  exact congrArg Prod.fst (runWith_bind_error (runWith_requireFreeName_of_taken world htaken))

/-- **An edit is made if its name is free, or the one that the organization has.** -/
theorem runWith_update_of_free {edit : OrganizationEdit} {before : Organization}
    {world : World Memory} (hkeyed : world.store.Keyed) (hvalid : edit.validate = .ok ())
    (hbefore : world.store.row? .organizations edit.organizationId = some before)
    (hfree : ∀ name ∈ edit.name, name ≠ before.name →
      world.store.NameFree name (some before.organizationId)) :
    ((update edit).runWith .memory world).1 = .ok (edit.apply before) := by
  have hscan : Procedure.runWith .memory
      ((edit.name.filter (· ≠ before.name)).forM fun name =>
        requireFreeName name (some before.organizationId)) world = (.ok (), world) := by
    cases e : edit.name.filter (· ≠ before.name) with
    | none => rfl
    | some name =>
      obtain ⟨hname, hnew⟩ := Option.filter_eq_some_iff.mp e
      exact runWith_requireFreeName_of_free world (hfree name hname (of_decide_eq_true hnew))
  have hkey : before.organizationId = edit.organizationId := hkeyed _ _ _ hbefore
  have hthere : (world.store.row? .organizations
      (Table.key .organizations (edit.apply before))).isSome = true := by
    show (world.store.row? .organizations before.organizationId).isSome = true
    rw [hkey, hbefore]
    rfl
  have hput := Memory.perform_update world.store .organizations (edit.apply before)
  rw [if_pos hthere] at hput
  rw [runWith_update hvalid hbefore, runWith_bind_ok hscan, runWith_bind_ok (runWith_perform hput)]
  rfl

end Organizations

/-! ### What one operation does to names -/

theorem Operation.of_edits_organizations (h : operation.edits? = some .organizations) :
    ∃ edit, operation = .updateOrganization edit := by
  cases operation with
  | updateOrganization edit => exact ⟨edit, rfl⟩
  | _ => cases h

section SameOrganizations

variable (memory : Memory)

theorem Memory.organizations_put (table : Table) (row : table.Row) (h : table ≠ .organizations) :
    (memory.put table row).rows .organizations = memory.rows .organizations :=
  memory.rows_setRows_of_ne _ h.symm

theorem Memory.organizations_drop (table : Table) (key : String) (h : table ≠ .organizations) :
    (memory.drop table key).rows .organizations = memory.rows .organizations :=
  memory.rows_setRows_of_ne _ h.symm

theorem Memory.organizations_remains (app : Instance) (snapshot : Snapshot)
    (row entry copy : Bool) :
    (memory.remains app snapshot row entry copy).rows .organizations =
      memory.rows .organizations := by
  refine remains_induction
    (motive := fun after => after.rows .organizations = memory.rows .organizations)
    rfl ?_ ?_ ?_ row entry copy
  · exact fun _ => memory.organizations_put .instances app (by decide)
  · exact fun _ hsame => hsame
  · exact fun after hsame => (after.organizations_put .snapshots snapshot (by decide)).trans hsame

end SameOrganizations

/-- **Organizations are left alone, unless an operation succeeded in adding or editing one.** -/
theorem Effect.organizations (h : Effect world world' trace operation succeeded) :
    world'.store.rows .organizations = world.store.rows .organizations ∨
      succeeded = true ∧ ((∃ request, operation = .addOrganization request) ∨
        ∃ edit, operation = .updateOrganization edit) := by
  cases h with
  | unchanged store => exact Or.inl (congrArg (Memory.rows · .organizations) store)
  | @founded request => exact Or.inr ⟨rfl, Or.inl ⟨request, rfl⟩⟩
  | @edited operation table _ after edits _ _ store =>
    by_cases htable : table = .organizations
    · subst htable
      exact Or.inr ⟨rfl, Or.inr (Operation.of_edits_organizations edits)⟩
    · exact Or.inl (store ▸ world.store.organizations_put table after htable)
  | @registered _ kind _ row _ _ _ store =>
    exact Or.inl (store ▸ world.store.organizations_put kind.table row kind.table_ne_organizations)
  | @stored _ kind _ row _ _ _ store =>
    exact Or.inl (store ▸ world.store.organizations_put kind.table row kind.table_ne_organizations)
  | @removed kind _ c _ _ _ _ _ store =>
    exact Or.inl (store ▸ world.store.organizations_drop kind.table c kind.table_ne_organizations)
  | @removedInstance _ i _ copy given _ _ _ store =>
    rw [store]
    refine Or.inl (Memory.removed_induction (motive := fun after =>
      after.rows .organizations = world.store.rows .organizations) ?_ ?_ ?_ copy given)
    · exact world.store.organizations_drop .instances i (by decide)
    · exact fun hsame => (Memory.organizations_drop _ .snapshots i (by decide)).trans hsame
    · exact fun after hsame => (after.organizations_drop .parameters i (by decide)).trans hsame
  | @dropped kind _ c _ _ _ _ _ _ store =>
    exact Or.inl (store ▸ world.store.organizations_drop kind.table c kind.table_ne_organizations)
  | unlisted _ _ _ store => exact Or.inl (store ▸ rfl)
  | launched app snapshot parameters _ _ _ _ _ store =>
    have hremains := world.store.organizations_remains app snapshot true true true
    rw [store]
    cases parameters with
    | none => exact Or.inl hremains
    | some given =>
      exact Or.inl ((Memory.organizations_put _ .parameters given (by decide)).trans hremains)
  | remaining app snapshot _ _ row entry copy _ _ _ _ _ store =>
    exact Or.inl (store ▸ world.store.organizations_remains app snapshot row entry copy)

/-- **An operation keeps names apart.** -/
theorem Operation.namesApart {result : Except RegistryError operation.Answer}
    (hkeyed : world.store.Keyed)
    (h : operation.procedure.Ends .memory world trace result world')
    (hapart : world.store.NamesApart) : world'.store.NamesApart := by
  rcases (operation.effect hkeyed h).organizations with
    hsame | ⟨hsucceeded, ⟨request, rfl⟩ | ⟨edit, rfl⟩⟩
  · exact hapart.of_same hsame
  · cases result with
    | error error => cases hsucceeded
    | ok answer =>
      obtain ⟨hfree, hstore⟩ := Organizations.ends_add_ok h
      rw [hstore]
      exact hapart.put (hfree.of_none _)
  · cases result with
    | error error => cases hsucceeded
    | ok answer =>
      obtain ⟨before, hbefore, hfree, hstore⟩ := Organizations.ends_update_ok h
      rw [hstore]
      exact hapart.put (hapart.free_of_edit hbefore hfree)

/-- **Names stay apart**, whatever calls are stopped and however ids are chosen. -/
theorem Runs.namesApart {start world : World Store} {events : List Event}
    (hfresh : start.store.Fresh) (h : Runs start events world) :
    world.store.contents.NamesApart := by
  induction h with
  | start => exact hfresh.contents_eq ▸ Memory.namesApart_empty
  | @step events world world' operation time trace result before ends ih =>
    obtain ⟨hfaithful, hkeyed⟩ := before.faithful hfresh
    exact Operation.namesApart hkeyed (Program.ends_contents ends hfaithful).1 ih

/-! ### Edits that are refused for a name -/

/-- Another of the organizations has the name that an edit asks for. -/
def OrganizationEdit.AsksForTaken (edit : OrganizationEdit) (organizations : List Organization) :
    Prop :=
  ∃ other ∈ organizations, other.organizationId ≠ edit.organizationId ∧
    edit.name = some other.name

theorem OrganizationEdit.asksForTaken_iff {edit : OrganizationEdit} {memory : Memory} :
    edit.AsksForTaken (memory.rows .organizations).values ↔
      ∃ name ∈ edit.name, ¬ memory.NameFree name (some edit.organizationId) := by
  simp only [AsksForTaken, OrderedMap.mem_values_iff, Memory.NameFree, Memory.row?, not_forall,
    Option.mem_def, Option.some.injEq, exists_prop]
  constructor
  · rintro ⟨other, ⟨key, hrow⟩, hother, hname⟩
    exact ⟨other.name, hname, key, other, hrow, rfl, hother⟩
  · rintro ⟨name, hname, key, other, hrow, rfl, hother⟩
    exact ⟨other, ⟨key, hrow⟩, hother, hname⟩

/-- **No two organizations have one name**, after operations with any calls stopped and however ids
are chosen.  An edit is then refused for its name if and only if another organization has it; any
other edit is made, and so is one that gives an organization the name it has. -/
theorem names_held_once {start world : World Store} {events : List Event}
    (hfresh : start.store.Fresh) (h : Runs start events world) :
    ∃ organizations : List Organization,
      (world.store.perform (.list .organizations)).1 = .ok organizations ∧
      (organizations.map (·.name)).Nodup ∧
      ∀ (edit : OrganizationEdit) (organization : Organization) (time : Int64),
        edit.validate = .ok () → organization ∈ organizations →
        organization.organizationId = edit.organizationId →
        let answer :=
          ((Operation.updateOrganization edit).procedure.runWith .store (world.at time)).1
        ((∃ what, answer = .error (.alreadyExists what)) ↔ edit.AsksForTaken organizations) ∧
        (¬ edit.AsksForTaken organizations → answer = .ok (edit.apply organization)) ∧
        (edit.name = some organization.name → answer = .ok (edit.apply organization)) := by
  obtain ⟨hfaithful, hkeyed⟩ := h.faithful hfresh
  have hapart := h.namesApart hfresh
  refine ⟨_, (hfaithful.perform (.list .organizations)).1, hapart.nodup hkeyed, ?_⟩
  intro edit organization time hvalid hmem hid answer
  obtain ⟨key, hrow⟩ := OrderedMap.mem_values_iff.mp hmem
  have hkey : organization.organizationId = key := hkeyed _ _ _ hrow
  have hbefore : world.store.contents.row? .organizations edit.organizationId =
      some organization := by
    rw [← hid, hkey]
    exact hrow
  have hat : (world.at time).store.Faithful := hfaithful
  have hanswer : answer =
      ((Organizations.update edit).runWith .memory (world.at time).contents).1 :=
    runWith_contents _ hat
  have hmade : (∀ name ∈ edit.name, name ≠ organization.name →
      world.store.contents.NameFree name (some edit.organizationId)) →
      answer = .ok (edit.apply organization) := by
    intro hfree
    rw [hanswer]
    exact Organizations.runWith_update_of_free hkeyed hvalid hbefore (hid ▸ hfree)
  have hrefused : edit.AsksForTaken (world.store.contents.rows .organizations).values →
      ∃ what, answer = .error (.alreadyExists what) := by
    intro htaken
    obtain ⟨name, hname, htaken⟩ := OrganizationEdit.asksForTaken_iff.mp htaken
    rw [← hid] at htaken
    -- the name is a new one, for that of the organization is free for itself
    have hnew : name ≠ organization.name := fun hsame => htaken (hsame ▸ hapart hrow)
    refine ⟨.organizationNamed name, hanswer.trans ?_⟩
    exact Organizations.runWith_update_of_taken hvalid hbefore hname hnew htaken
  have hfree : ¬ edit.AsksForTaken (world.store.contents.rows .organizations).values →
      answer = .ok (edit.apply organization) := by
    intro hnone
    rw [OrganizationEdit.asksForTaken_iff] at hnone
    exact hmade fun name hname _ => not_not.mp fun htaken => hnone ⟨name, hname, htaken⟩
  refine ⟨⟨?_, hrefused⟩, hfree, ?_⟩
  · rintro ⟨what, herror⟩
    by_contra hnone
    cases herror.symm.trans (hfree hnone)
  · intro hown
    refine hmade fun name hname hnew => absurd ?_ hnew
    exact Option.some.inj (hname.symm.trans hown)

/-- A third organization is given an id that is in use, and a rename is stopped before it is
written. -/
theorem names_held_once_of_stopped_rename :
    let start : World Store :=
      { store := .memory .empty, clock := 0
        ids := { name := fun n => if n % 2 = 0 then "even" else "odd", drawn := 0 } }
    let found : String → Operation := fun name =>
      .addOrganization { (default : NewOrganization) with name }
    let rename : String → OrganizationEdit := fun name =>
      { (default : OrganizationEdit) with organizationId := "odd", name := some name }
    let world := start.afterStopping
      [(found "acme", 1, []), (found "globex", 2, []), (found "initech", 3, []),
        (.updateOrganization (rename "umbrella"), 4, [none, none, some (.write "down")])]
    let answer : String → Except RegistryError Organization := fun name =>
      ((Operation.updateOrganization (rename name)).procedure.runWith .store (world.at 5)).1
    ∃ organizations : List Organization,
      (world.store.perform (.list .organizations)).1 = .ok organizations ∧
      organizations.map (fun o => (o.organizationId, o.name)) =
        [("even", "acme"), ("odd", "globex")] ∧
      (organizations.map (·.name)).Nodup ∧
      (∃ what, answer "acme" = .error (.alreadyExists what)) ∧
      (∃ organization, answer "globex" = .ok organization) ∧
      ∃ organization, answer "umbrella" = .ok organization := by
  intro start found rename world answer
  have hstart : Runs start [] start := .start
  obtain ⟨events, hruns⟩ := hstart.afterStopping
    [(found "acme", 1, []), (found "globex", 2, []), (found "initech", 3, []),
      (.updateOrganization (rename "umbrella"), 4, [none, none, some (.write "down")])]
  obtain ⟨organizations, hlist, hnodup, hanswers⟩ := names_held_once (Or.inl rfl) hruns
  have hstored : (world.store.perform (.list .organizations)).1.toOption.map
      (List.map fun o : Organization => (o.organizationId, o.name)) =
        some [("even", "acme"), ("odd", "globex")] := by
    decide +kernel
  have hnames : organizations.map (fun o => (o.organizationId, o.name)) =
      [("even", "acme"), ("odd", "globex")] := by
    rw [show (world.store.perform (.list .organizations)).1 = .ok organizations from hlist]
      at hstored
    exact Option.some.inj hstored
  have hmem : ∀ pair : String × String, pair ∈ [("even", "acme"), ("odd", "globex")] →
      ∃ o ∈ organizations, (o.organizationId, o.name) = pair := by
    rw [← hnames]
    exact fun _ => List.mem_map.mp
  obtain ⟨acme, hacme, heven⟩ := hmem ("even", "acme") (by simp)
  obtain ⟨globex, hglobex, hodd⟩ := hmem ("odd", "globex") (by simp)
  obtain ⟨hacmeId, hacmeName⟩ := Prod.mk.inj heven
  obtain ⟨hglobexId, hglobexName⟩ := Prod.mk.inj hodd
  have hvalid : ∀ name ∈ ["acme", "globex", "umbrella"], (rename name).validate = .ok () := by
    decide +kernel
  refine ⟨organizations, hlist, hnames, hnodup, ?_, ?_, ?_⟩
  · refine (hanswers (rename "acme") globex 5 (hvalid _ (by simp)) hglobex hglobexId).1.mpr ?_
    exact ⟨acme, hacme, by rw [hacmeId]; decide, congrArg some hacmeName.symm⟩
  · refine ⟨_, (hanswers (rename "globex") globex 5 (hvalid _ (by simp)) hglobex hglobexId).2.2 ?_⟩
    exact congrArg some hglobexName.symm
  · refine ⟨_, (hanswers (rename "umbrella") globex 5 (hvalid _ (by simp)) hglobex hglobexId).2.1
      ?_⟩
    rintro ⟨other, hother, -, hname⟩
    -- nobody has the new name
    have hlisted : (other.organizationId, other.name) ∈ [("even", "acme"), ("odd", "globex")] :=
      hnames ▸ List.mem_map_of_mem hother
    rw [← Option.some.inj hname] at hlisted
    simp at hlisted

end TenantRegistry
