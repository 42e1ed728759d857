/-
TenantRegistry/Proofs/Breaches.lean

The first rule that is broken.

A list of groups may break many rules at once, and validation reports one of
them.  Here every breach has a place: the position of the group, then the rule
of the group or the position of its service, and so on down to the two numbers
of a port.  Whether there is a breach at a place says nothing about other
places, but for the names that have to be new: these are compared with the names
before them in the same list.  Traversal order is the lexicographic order of
places, and validation reports the violation at the least place.

`Reports result breaches` says this of any rule and its breaches.  Rules made one
after another report together (`Reports.andThen`), and so does a loop that
remembers the names that it saw (`reports_loop`).

Main result: `groups_report_first_breach`.
-/
import Mathlib.Data.List.Lex
import TenantRegistry.Proofs.Validity

namespace TenantRegistry

/-! ### Breaches and their order -/

/-- The places at which a rule is broken, and how. -/
abbrev Breaches : Type := List Nat → Violation → Prop

namespace Breaches

/-- The violation at the least place of a breach. -/
def First (breaches : Breaches) (violation : Violation) : Prop :=
  ∃ place, breaches place violation ∧ ∀ other violation', breaches other violation' → place ≤ other

/-- One breach, if the condition fails. -/
def single (condition : Prop) (otherwise : Violation) : Breaches := fun place violation =>
  ¬ condition ∧ place = [] ∧ violation = otherwise

/-- Breaches in a part, by their places in the whole. -/
def within (breaches : Breaches) (part : Nat) : Breaches := fun place violation =>
  ∃ rest, place = part :: rest ∧ breaches rest violation

/-- No breach is before a part. -/
def From (breaches : Breaches) (part : Nat) : Prop :=
  ∀ place violation, breaches place violation → ∃ i rest, part ≤ i ∧ place = i :: rest

/-- Breaches in the elements of a list, of which the first is the given part.  An element is judged
with the names before it. -/
def ofList {α : Type} (name : α → String) (breaches : List String → α → Breaches)
    (earlier : List String) (part : Nat) (xs : List α) : Breaches := fun place violation =>
  ∃ i x rest, xs[i]? = some x ∧ place = (part + i) :: rest ∧
    breaches (earlier ++ (xs.take i).map name) x rest violation

end Breaches

/-- A rule fails with the violation of its first breach, and is passed if there is none. -/
def Reports : Except Violation Unit → Breaches → Prop
  | .ok (), breaches => ∀ place violation, ¬ breaches place violation
  | .error violation, breaches => breaches.First violation

/-- Rules that are made one after another report together, from a part on. -/
structure ReportsFrom (part : Nat) (result : Except Violation Unit) (breaches : Breaches) :
    Prop where
  reports : Reports result breaches
  places : breaches.From part

/-! ### Rules one after another -/

namespace Reports

variable {result first : Except Violation Unit} {rest : Unit → Except Violation Unit}
variable {breaches others : Breaches} {part : Nat}

theorem congr (h : Reports result breaches)
    (hiff : ∀ place violation, breaches place violation ↔ others place violation) :
    Reports result others := by
  obtain rfl : breaches = others := by
    funext place violation
    exact propext (hiff place violation)
  exact h

/-- The last of several rules. -/
theorem last (part : Nat) (h : Reports result breaches) :
    ReportsFrom part result (breaches.within part) := by
  refine { reports := ?_, places := ?_ }
  · cases result with
    | ok value =>
      rintro place violation ⟨inner, -, hinner⟩
      exact h inner violation hinner
    | error violation =>
      obtain ⟨place, hplace, hleast⟩ := h
      refine ⟨part :: place, ⟨place, rfl, hplace⟩, ?_⟩
      rintro other violation' ⟨inner, rfl, hinner⟩
      exact List.cons_le_cons part (hleast inner violation' hinner)
  · rintro place violation ⟨inner, rfl, -⟩
    exact ⟨part, inner, Nat.le_refl part, rfl⟩

/-- **A rule and then others report together.** -/
theorem andThen (hfirst : Reports first breaches)
    (hrest : ReportsFrom (part + 1) (rest ()) others) :
    ReportsFrom part (first >>= rest) fun place violation =>
      breaches.within part place violation ∨ others place violation := by
  have hown := hfirst.last part
  refine { reports := ?_, places := ?_ }
  · cases first with
    | ok value =>
      refine hrest.reports.congr fun place violation => ?_
      exact (or_iff_right (hown.reports place violation)).symm
    | error violation =>
      obtain ⟨place, hplace, hleast⟩ := hown.reports
      refine ⟨place, Or.inl hplace, ?_⟩
      rintro other violation' (hbreach | hbreach)
      · exact hleast other violation' hbreach
      · obtain ⟨inner, rfl, -⟩ := hplace
        obtain ⟨i, inner', hi, rfl⟩ := hrest.places other violation' hbreach
        exact le_of_lt (List.Lex.rel hi)
  · rintro place violation (hbreach | hbreach)
    · exact hown.places place violation hbreach
    · obtain ⟨i, inner, hi, rfl⟩ := hrest.places place violation hbreach
      exact ⟨i, inner, Nat.le_of_succ_le hi, rfl⟩

/-- What is reported is the first breach, if no two violations have one place. -/
theorem eq_error_iff (h : Reports result breaches)
    (hunique : ∀ place v v', breaches place v → breaches place v' → v = v')
    {violation : Violation} : result = .error violation ↔ breaches.First violation := by
  constructor
  · rintro rfl
    exact h
  · rintro ⟨place, hplace, hleast⟩
    cases result with
    | ok value => exact absurd hplace (h place violation)
    | error reported =>
      obtain ⟨place', hplace', hleast'⟩ := h
      obtain rfl : place = place' :=
        le_antisymm (hleast place' reported hplace') (hleast' place violation hplace)
      exact congrArg Except.error (hunique place reported violation hplace' hplace)

end Reports

/-! ### Single rules -/

namespace Breaches

variable {condition : Prop} {otherwise violation : Violation} {part : Nat} {place : List Nat}

theorem within_single : (single condition otherwise).within part place violation ↔
    ¬ condition ∧ place = [part] ∧ violation = otherwise := by
  constructor
  · rintro ⟨rest, rfl, hfails, rfl, rfl⟩
    exact ⟨hfails, rfl, rfl⟩
  · rintro ⟨hfails, rfl, rfl⟩
    exact ⟨[], rfl, hfails, rfl, rfl⟩

end Breaches

theorem reports_ensure (condition : Prop) [Decidable condition] (otherwise : Violation) :
    Reports (ensure condition otherwise) (.single condition otherwise) := by
  rw [ensure]
  split
  · next hholds =>
    rintro place violation ⟨hfails, -, -⟩
    exact hfails hholds
  · next hfails =>
    exact ⟨[], ⟨hfails, rfl, rfl⟩, fun other _ _ => not_lt.mp (List.not_lt_nil other)⟩

theorem reports_ensureText (field value : String) :
    Reports (ensureText field value) (.single (NonBlank value) (.unset field)) := by
  refine (reports_ensure (isBlank value = false) (.unset field)).congr fun place violation => ?_
  have hblank := @ensureText_eq_ok_iff field value
  rw [ensureText, ensure_eq_ok_iff] at hblank
  rw [Breaches.single, Breaches.single, hblank]

theorem reports_ensurePort (field : String) (port : UInt32) :
    Reports (ensurePort field port) (.single (IsPort port) (.portRange field port)) :=
  reports_ensure _ _

/-! ### Loops -/

namespace Breaches

variable {α : Type} {name : α → String} {breaches : List String → α → Breaches}
variable {earlier : List String} {part : Nat}

theorem from_ofList (xs : List α) : (ofList name breaches earlier part xs).From part := by
  rintro place violation ⟨i, x, rest, -, rfl, -⟩
  exact ⟨part + i, rest, Nat.le_add_right part i, rfl⟩

theorem ofList_nil (place : List Nat) (violation : Violation) :
    ¬ ofList name breaches earlier part [] place violation := by
  rintro ⟨i, x, rest, hget, -⟩
  rw [List.getElem?_nil] at hget
  cases hget

/-- A breach in a list is in its first element or after it. -/
theorem ofList_cons (x : α) (xs : List α) (place : List Nat) (violation : Violation) :
    ofList name breaches earlier part (x :: xs) place violation ↔
      (breaches earlier x).within part place violation ∨
        ofList name breaches (earlier ++ [name x]) (part + 1) xs place violation := by
  constructor
  · rintro ⟨i, y, rest, hget, rfl, hbreach⟩
    cases i with
    | zero =>
      cases hget
      rw [List.take_zero, List.map_nil, List.append_nil] at hbreach
      exact Or.inl ⟨rest, rfl, hbreach⟩
    | succ i =>
      rw [List.getElem?_cons_succ] at hget
      rw [List.take_succ_cons, List.map_cons, List.append_cons] at hbreach
      exact Or.inr ⟨i, y, rest, hget, by rw [Nat.add_right_comm, Nat.add_assoc], hbreach⟩
  · rintro (⟨rest, rfl, hbreach⟩ | ⟨i, y, rest, hget, rfl, hbreach⟩)
    · refine ⟨0, x, rest, rfl, rfl, ?_⟩
      rwa [List.take_zero, List.map_nil, List.append_nil]
    · refine ⟨i + 1, y, rest, hget, by rw [Nat.add_right_comm, Nat.add_assoc], ?_⟩
      rwa [List.take_succ_cons, List.map_cons, List.append_cons]

end Breaches

/-- **A loop that remembers names reports the first breach of its list**, if it judges each element
by the names before it.  The induction is on the list, for any names that were seen. -/
theorem reports_loop {α : Type} {name : α → String}
    {check : List String → α → Except Violation Unit}
    {loop : List String → List α → Except Violation Unit} {breaches : List String → α → Breaches}
    (hnil : ∀ seen, loop seen [] = .ok ())
    (hcons : ∀ seen x xs, loop seen (x :: xs) = check seen x >>= fun _ => loop (name x :: seen) xs)
    (hcheck : ∀ seen earlier x, (∀ n, n ∈ seen ↔ n ∈ earlier) →
      Reports (check seen x) (breaches earlier x))
    {seen earlier : List String} (hseen : ∀ n, n ∈ seen ↔ n ∈ earlier) (part : Nat) (xs : List α) :
    Reports (loop seen xs) (.ofList name breaches earlier part xs) := by
  induction xs generalizing seen earlier part with
  | nil =>
    rw [hnil]
    exact Breaches.ofList_nil
  | cons x xs ih =>
    have hlater : ∀ n, n ∈ name x :: seen ↔ n ∈ earlier ++ [name x] := by
      intro n
      rw [List.mem_cons, List.mem_append, List.mem_singleton, hseen, or_comm]
    rw [hcons]
    refine ((hcheck seen earlier x hseen).andThen
      ⟨ih hlater (part + 1), Breaches.from_ofList xs⟩).reports.congr fun place violation => ?_
    exact (Breaches.ofList_cons x xs place violation).symm

/-- A rule for each element reports the first breach of the list. -/
theorem reports_ensureEach {α : Type} {rule : α → Except Violation Unit} {breaches : α → Breaches}
    (hrule : ∀ x, Reports (rule x) (breaches x)) (xs : List α) :
    Reports (ensureEach rule xs) fun place violation =>
      ∃ i x rest, xs[i]? = some x ∧ place = i :: rest ∧ breaches x rest violation := by
  have hloop : Reports (ensureEach rule xs)
      (.ofList (fun _ => "") (fun _ x => breaches x) [] 0 xs) :=
    @reports_loop α _ (fun _ => rule) (fun _ => ensureEach rule) _ (fun _ => rfl)
      (fun _ _ _ => rfl) (fun _ _ x _ => hrule x) [] [] (fun _ => Iff.rfl) 0 xs
  refine hloop.congr fun place violation => ?_
  simp only [Breaches.ofList, Nat.zero_add]

/-! ### Breaches of groups -/

/-- The numbers of a port that are out of range. -/
inductive Port.Breach (port : Port) : Breaches
  | internal (h : ¬ IsPort port.internalPort) :
      Breach port [0] (.portRange "internal port" port.internalPort)
  | exposed (h : ¬ IsPort port.exposedPort) :
      Breach port [1] (.portRange "exposed port" port.exposedPort)

/-- What is wrong with a service of a group, after services of the given names. -/
inductive Service.Breach (groupName : String) (earlier : List String) (service : Service) :
    Breaches
  | name (h : ¬ NonBlank service.name) :
      Breach groupName earlier service [0] (.unset "service name")
  | image (h : ¬ NonBlank service.image) :
      Breach groupName earlier service [1] (.unset "service image")
  | repeated (h : service.name ∈ earlier) :
      Breach groupName earlier service [2] (.repeatedService service.name groupName)
  | port {k : Nat} {port : Port} {place : List Nat} {violation : Violation}
      (hport : service.exposedPorts[k]? = some port) (h : port.Breach place violation) :
      Breach groupName earlier service (3 :: k :: place) violation

/-- What is wrong with a group, after groups of the given names. -/
inductive ServiceGroup.Breach (earlier : List String) (group : ServiceGroup) : Breaches
  | name (h : ¬ NonBlank group.name) : Breach earlier group [0] (.unset "service group name")
  | repeated (h : group.name ∈ earlier) : Breach earlier group [1] (.repeatedGroup group.name)
  | empty (h : group.services = []) : Breach earlier group [2] (.emptyGroup group.name)
  | service {j : Nat} {service : Service} {place : List Nat} {violation : Violation}
      (hservice : group.services[j]? = some service)
      (h : service.Breach group.name ((group.services.take j).map (·.name)) place violation) :
      Breach earlier group (3 :: j :: place) violation

/-- What is wrong with the groups of a descriptor. -/
inductive GroupsBreach (groups : List ServiceGroup) : Breaches
  | none (h : groups = []) : GroupsBreach groups [0] .noGroups
  | group {i : Nat} {group : ServiceGroup} {place : List Nat} {violation : Violation}
      (hgroup : groups[i]? = some group)
      (h : group.Breach ((groups.take i).map (·.name)) place violation) :
      GroupsBreach groups (1 :: i :: place) violation

/-! ### One violation at a place -/

section Unique

variable {place : List Nat} {violation violation' : Violation}

theorem Port.Breach.unique {port : Port} (h : port.Breach place violation)
    (h' : port.Breach place violation') : violation = violation' := by
  cases h <;> cases h' <;> rfl

theorem Service.Breach.unique {groupName : String} {earlier : List String} {service : Service}
    (h : service.Breach groupName earlier place violation)
    (h' : service.Breach groupName earlier place violation') : violation = violation' := by
  cases h with
  | port hport h =>
    cases h' with
    | port hport' h' =>
      cases hport.symm.trans hport'
      exact h.unique h'
  | _ => cases h'; rfl

theorem ServiceGroup.Breach.unique {earlier : List String} {group : ServiceGroup}
    (h : group.Breach earlier place violation) (h' : group.Breach earlier place violation') :
    violation = violation' := by
  cases h with
  | service hservice h =>
    cases h' with
    | service hservice' h' =>
      cases hservice.symm.trans hservice'
      exact h.unique h'
  | _ => cases h'; rfl

theorem GroupsBreach.unique {groups : List ServiceGroup} (h : GroupsBreach groups place violation)
    (h' : GroupsBreach groups place violation') : violation = violation' := by
  cases h with
  | none => cases h'; rfl
  | group hgroup h =>
    cases h' with
    | group hgroup' h' =>
      cases hgroup.symm.trans hgroup'
      exact h.unique h'

end Unique

/-! ### Rules and their breaches -/

/-- What a service is checked for, before the next one is. -/
def Service.check (groupName : String) (seen : List String) (service : Service) :
    Except Violation Unit := do
  ensureText "service name" service.name
  ensureText "service image" service.image
  ensure (service.name ∉ seen) (.repeatedService service.name groupName)
  ensureEach Port.validate service.exposedPorts

/-- What a group is checked for, before the next one is. -/
def ServiceGroup.check (seen : List String) (group : ServiceGroup) : Except Violation Unit := do
  ensureText "service group name" group.name
  ensure (group.name ∉ seen) (.repeatedGroup group.name)
  ensure (group.services ≠ []) (.emptyGroup group.name)
  validateServices group.name [] group.services

theorem validateServices_cons (groupName : String) (seen : List String) (service : Service)
    (rest : List Service) : validateServices groupName seen (service :: rest) =
      service.check groupName seen >>= fun _ =>
        validateServices groupName (service.name :: seen) rest := by
  simp only [validateServices, Service.check, bind_assoc]

theorem validateGroups_cons (seen : List String) (group : ServiceGroup)
    (rest : List ServiceGroup) : validateGroups seen (group :: rest) =
      group.check seen >>= fun _ => validateGroups (group.name :: seen) rest := by
  simp only [validateGroups, ServiceGroup.check, bind_assoc]

theorem Port.reports_validate (port : Port) : Reports port.validate port.Breach := by
  refine ((reports_ensurePort "internal port" port.internalPort).andThen
    ((reports_ensurePort "exposed port" port.exposedPort).last 1)).reports.congr
    fun place violation => ?_
  rw [Breaches.within_single, Breaches.within_single]
  constructor
  · rintro (⟨hrange, rfl, rfl⟩ | ⟨hrange, rfl, rfl⟩)
    · exact .internal hrange
    · exact .exposed hrange
  · intro h
    cases h with
    | internal hrange => exact Or.inl ⟨hrange, rfl, rfl⟩
    | exposed hrange => exact Or.inr ⟨hrange, rfl, rfl⟩

theorem Service.reports_check {seen earlier : List String} (hseen : ∀ n, n ∈ seen ↔ n ∈ earlier)
    (groupName : String) (service : Service) :
    Reports (service.check groupName seen) (service.Breach groupName earlier) := by
  have hports := reports_ensureEach Port.reports_validate service.exposedPorts
  have hrepeated := reports_ensure (service.name ∉ seen)
    (.repeatedService service.name groupName)
  have himage := reports_ensureText "service image" service.image
  have hname := reports_ensureText "service name" service.name
  refine (hname.andThen (himage.andThen (hrepeated.andThen (hports.last 3)))).reports.congr
    fun place violation => ?_
  simp only [Breaches.within_single, not_not, hseen]
  constructor
  · rintro (⟨hblank, rfl, rfl⟩ | ⟨hblank, rfl, rfl⟩ | ⟨hmem, rfl, rfl⟩ |
      ⟨_, rfl, k, port, rest, hport, rfl, hbreach⟩)
    · exact .name hblank
    · exact .image hblank
    · exact .repeated hmem
    · exact .port hport hbreach
  · intro h
    cases h with
    | name hblank => exact Or.inl ⟨hblank, rfl, rfl⟩
    | image hblank => exact Or.inr (Or.inl ⟨hblank, rfl, rfl⟩)
    | repeated hmem => exact Or.inr (Or.inr (Or.inl ⟨hmem, rfl, rfl⟩))
    | port hport hbreach => exact Or.inr (Or.inr (Or.inr ⟨_, rfl, _, _, _, hport, rfl, hbreach⟩))

theorem ServiceGroup.reports_check {seen earlier : List String}
    (hseen : ∀ n, n ∈ seen ↔ n ∈ earlier) (group : ServiceGroup) :
    Reports (group.check seen) (group.Breach earlier) := by
  have hservices : Reports (validateServices group.name [] group.services)
      (.ofList (·.name) (fun earlier service => service.Breach group.name earlier) [] 0
        group.services) :=
    reports_loop (fun _ => rfl) (validateServices_cons group.name)
      (fun _ _ service hseen => service.reports_check hseen group.name) (fun _ => Iff.rfl) 0 _
  have hempty := reports_ensure (group.services ≠ []) (.emptyGroup group.name)
  have hrepeated := reports_ensure (group.name ∉ seen) (.repeatedGroup group.name)
  have hname := reports_ensureText "service group name" group.name
  refine (hname.andThen (hrepeated.andThen (hempty.andThen (hservices.last 3)))).reports.congr
    fun place violation => ?_
  simp only [Breaches.within_single, not_not, hseen]
  constructor
  · rintro (⟨hblank, rfl, rfl⟩ | ⟨hmem, rfl, rfl⟩ | ⟨hnone, rfl, rfl⟩ |
      ⟨_, rfl, j, service, rest, hservice, rfl, hbreach⟩)
    · exact .name hblank
    · exact .repeated hmem
    · exact .empty hnone
    · rw [Nat.zero_add]
      exact .service hservice hbreach
  · intro h
    cases h with
    | name hblank => exact Or.inl ⟨hblank, rfl, rfl⟩
    | repeated hmem => exact Or.inr (Or.inl ⟨hmem, rfl, rfl⟩)
    | empty hnone => exact Or.inr (Or.inr (Or.inl ⟨hnone, rfl, rfl⟩))
    | @service j service rest _ hservice hbreach =>
      refine Or.inr (Or.inr (Or.inr ⟨_, rfl, j, service, rest, hservice, ?_, hbreach⟩))
      rw [Nat.zero_add]

theorem reports_validateServiceGroups (groups : List ServiceGroup) :
    Reports (validateServiceGroups groups) (GroupsBreach groups) := by
  have hgroups : Reports (validateGroups [] groups)
      (.ofList (·.name) (fun earlier group => group.Breach earlier) [] 0 groups) :=
    reports_loop (fun _ => rfl) validateGroups_cons
      (fun _ _ group hseen => group.reports_check hseen) (fun _ => Iff.rfl) 0 groups
  have hsome := reports_ensure (groups ≠ []) .noGroups
  refine (hsome.andThen (hgroups.last 1)).reports.congr fun place violation => ?_
  simp only [Breaches.within_single, not_not]
  constructor
  · rintro (⟨hnone, rfl, rfl⟩ | ⟨_, rfl, i, group, rest, hgroup, rfl, hbreach⟩)
    · exact .none hnone
    · rw [Nat.zero_add]
      exact .group hgroup hbreach
  · intro h
    cases h with
    | none hnone => exact Or.inl ⟨hnone, rfl, rfl⟩
    | @group i group rest _ hgroup hbreach =>
      refine Or.inr ⟨_, rfl, i, group, rest, hgroup, ?_, hbreach⟩
      rw [Nat.zero_add]

/-- **Groups are valid if and only if they are well-formed, and otherwise refused as an invalid
argument, with the first of their breaches in traversal order.** -/
theorem groups_report_first_breach (groups : List ServiceGroup) :
    ((validateServiceGroups groups).mapError RegistryError.invalidArgument = .ok () ↔
      WellFormedGroups groups) ∧
    ∀ error, (validateServiceGroups groups).mapError RegistryError.invalidArgument = .error error ↔
      ∃ violation, error = .invalidArgument violation ∧
        Breaches.First (GroupsBreach groups) violation := by
  have hfirst : ∀ violation, validateServiceGroups groups = .error violation ↔
      Breaches.First (GroupsBreach groups) violation := fun violation =>
    (reports_validateServiceGroups groups).eq_error_iff fun _ _ _ => GroupsBreach.unique
  simp only [← validateServiceGroups_eq_ok_iff, ← hfirst]
  cases validateServiceGroups groups with
  | ok value => exact ⟨iff_of_true rfl rfl, fun error => iff_of_false nofun nofun⟩
  | error violation =>
    refine ⟨iff_of_false nofun nofun, fun error => ?_⟩
    constructor
    · rintro ⟨⟩
      exact ⟨violation, rfl, rfl⟩
    · rintro ⟨_, rfl, ⟨⟩⟩
      rfl

/-- Of five breaches the one of the port is the first: its service comes before the repeated one,
its group before the one without services, and the group is looked into before the next is. -/
example :
    let port : Port := { (default : Port) with internalPort := 80, exposedPort := 65536 }
    let api : Service :=
      { (default : Service) with name := "api", image := "api:1", exposedPorts := [port] }
    let web : ServiceGroup :=
      { (default : ServiceGroup) with name := "web", services := [api, api] }
    validateServiceGroups [web, { web with name := " ", services := [] }] =
      .error (.portRange "exposed port" 65536) := by
  decide

end TenantRegistry
