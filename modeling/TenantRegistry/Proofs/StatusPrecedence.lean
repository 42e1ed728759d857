/-
TenantRegistry/Proofs/StatusPrecedence.lean

Which of many statuses is the status of a group.

The status of a group is that of a tally of its members, taken one by one.  It
can be read off the statuses that are present at all: a failure goes before
everything, then come members on their way to running, then members on their way
out, and a group runs only if nothing else is present (`ofPresent`).  Neither the
order of the members nor their number plays a part, and a look at them may end at
the first that failed (`scan_eq`).

Main result: `aggregate_by_precedence`.
-/
import Mathlib.Data.Finset.Basic
import Mathlib.Data.Finset.Dedup
import TenantRegistry.Proofs.GroupStatus

namespace TenantRegistry

namespace ServiceStatus

/-! ### A look that ends at the first failure -/

/-- The status of a group by a look at one member after another, which ends at the first that
failed. -/
def Tally.scan (tally : Tally) : List ServiceStatus → ServiceStatus
  | [] => tally.status
  | .error :: _ => .error
  | status :: rest => (tally.add status).scan rest

/-- **What comes after a failure changes nothing.**  The induction is on the members, for any tally
of members that did not fail. -/
theorem Tally.scan_eq {tally : Tally} (h : tally.failed = false) (statuses : List ServiceStatus) :
    tally.scan statuses = (statuses.foldl Tally.add tally).status := by
  induction statuses generalizing tally with
  | nil => rfl
  | cons status rest ih =>
    cases status with
    | error =>
      have hfailed : ((error :: rest).foldl Tally.add tally).failed = true := by
        rw [List.foldl_cons, foldl_add]
        simp [Tally.add]
      rw [scan, status, hfailed, if_pos rfl]
    | running => exact ih h
    | terminating => exact ih h
    | scheduled => exact ih h
    | waiting => exact ih h
    | deploying => exact ih h

/-! ### Precedence -/

/-- The status of a group in which these statuses are present. -/
def ofPresent (present : Finset ServiceStatus) : ServiceStatus :=
  if error ∈ present then error
  else if present = ∅ then scheduled
  else if ∀ status ∈ present, status = running then running
  else if terminating ∈ present ∧ scheduled ∉ present ∧ waiting ∉ present ∧ deploying ∉ present then
    terminating
  else deploying

theorem any_isInFlight_eq_false_iff {statuses : List ServiceStatus} :
    statuses.any isInFlight = false ↔
      scheduled ∉ statuses ∧ waiting ∉ statuses ∧ deploying ∉ statuses := by
  rw [List.any_eq_false]
  constructor
  · intro h
    exact ⟨fun hmem => h _ hmem rfl, fun hmem => h _ hmem rfl, fun hmem => h _ hmem rfl⟩
  · rintro ⟨hscheduled, hwaiting, hdeploying⟩ status hmem
    cases status with
    | scheduled => exact absurd hmem hscheduled
    | waiting => exact absurd hmem hwaiting
    | deploying => exact absurd hmem hdeploying
    | running => exact nofun
    | error => exact nofun
    | terminating => exact nofun

/-- **The status of a group is that of the statuses that are present in it.** -/
theorem aggregate_eq_ofPresent (statuses : List ServiceStatus) :
    aggregate statuses = ofPresent statuses.toFinset := by
  have hany : ∀ status, status ∈ statuses.toFinset ↔ statuses.any (· = status) = true := by
    intro status
    simp
  have hempty : statuses.toFinset = ∅ ↔ statuses.isEmpty = true := by
    rw [List.toFinset_eq_empty_iff, List.isEmpty_iff]
  have hrunning : (∀ status ∈ statuses.toFinset, status = running) ↔
      statuses.all (· = running) = true := by
    simp
  have hsettled : (scheduled ∉ statuses.toFinset ∧ waiting ∉ statuses.toFinset ∧
      deploying ∉ statuses.toFinset) ↔ statuses.any isInFlight = false := by
    simp only [List.mem_toFinset, any_isInFlight_eq_false_iff]
  rw [aggregate, foldl_add, ofPresent, Tally.status]
  -- what is said of several statuses at once goes first
  simp only [hsettled, hrunning, hempty]
  simp only [hany, Tally.none, Bool.false_or, Bool.true_and, Bool.and_eq_true, Bool.not_eq_true',
    Bool.not_not]

/-- **The status of a group is an error if a member failed; else scheduled, if there is none; else
running, if all members run; else terminating, if some member is on its way out and none on its way
to running; and else deploying.**  So it is the same for any members of the same statuses, in
whatever order and however often each occurs, also if the look at them ends at the first failure. -/
theorem aggregate_by_precedence (statuses : List ServiceStatus) :
    aggregate statuses = ofPresent statuses.toFinset ∧
      Tally.none.scan statuses = aggregate statuses ∧
      ∀ others : List ServiceStatus, (∀ status, status ∈ others ↔ status ∈ statuses) →
        aggregate others = aggregate statuses := by
  refine ⟨aggregate_eq_ofPresent statuses, Tally.scan_eq rfl statuses, fun others hsame => ?_⟩
  rw [aggregate_eq_ofPresent, aggregate_eq_ofPresent]
  refine congrArg ofPresent (Finset.ext fun status => ?_)
  rw [List.mem_toFinset, List.mem_toFinset, hsame]

/-- The same two statuses, in another order and in other numbers. -/
theorem aggregate_by_precedence_of_repeated_members :
    let statuses : List ServiceStatus := [running, terminating, running]
    let others : List ServiceStatus := [terminating, terminating, running, terminating]
    (∀ status, status ∈ others ↔ status ∈ statuses) ∧ aggregate others = terminating := by
  intro statuses others
  have hsame : ∀ status, status ∈ others ↔ status ∈ statuses := by
    intro status
    cases status <;> decide
  obtain ⟨hpresent, -, hothers⟩ := aggregate_by_precedence statuses
  refine ⟨hsame, ?_⟩
  rw [hothers others hsame, hpresent]
  decide

end ServiceStatus

end TenantRegistry
