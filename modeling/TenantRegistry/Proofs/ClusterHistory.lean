/-
TenantRegistry/Proofs/ClusterHistory.lean

What a cluster shows of its past.

A monitor reports the health of a cluster by updating it, and an operator
cordons and uncordons it.  Both write to one status, each to a half of its own.
So the status can be read off from what was done to the cluster since it was
added: its power is what was reported last, and it is cordoned if that is what
an operator asked for last (`Follows`).  Only what was accepted counts, and the
revision counts what of that was written.

This holds after every run, whatever else is done in between, whatever calls
are stopped and however ids are chosen.  Three operations edit clusters, and a
row that no operation edits stays as it is until it is removed
(`Effect.row_kept`).

Main result: `cluster_follows_history`.
-/
import TenantRegistry.Proofs.Outcomes
import TenantRegistry.Proofs.RowChanges
import TenantRegistry.Proofs.Runs

namespace TenantRegistry

open Procedure

variable {world world' : World Memory} {trace : List Attempt} {operation : Operation}
  {succeeded : Bool} {clusterId : String}

namespace ClusterAction

/-- The cordon half that an action asks for. -/
def cordon? : ClusterAction → Option Bool
  | .cordon => some true
  | .uncordon => some false
  | .report _ => none

variable {action : ClusterAction} {cordoned : Bool} {status : ClusterStatus}

/-- An operator moves the cordon half if the power is known. -/
theorem move_of_known (h : action.cordon? = some cordoned) (hknown : status.power ≠ .unknown) :
    action.move status = .ok (.ofParts status.power cordoned) := by
  cases action with
  | cordon =>
    cases h
    rw [move, ClusterStatus.cordoned?_eq, if_neg hknown]
    rfl
  | uncordon =>
    cases h
    rw [move, ClusterStatus.uncordoned?_eq, if_neg hknown]
    rfl
  | report health => cases h

/-- An operator is refused if the power is unknown. -/
theorem move_of_unknown (h : action.cordon? = some cordoned) (hunknown : status.power = .unknown) :
    ∃ what, action.move status = .error (.failedPrecondition what) := by
  cases action with
  | cordon =>
    rw [move, ClusterStatus.cordoned?_eq, if_pos hunknown]
    exact ⟨_, rfl⟩
  | uncordon =>
    rw [move, ClusterStatus.uncordoned?_eq, if_pos hunknown]
    exact ⟨_, rfl⟩
  | report health => cases h

end ClusterAction

/-! ### What operations ask of a cluster -/

namespace Operation

/-- Whether an operation is to update a cluster. -/
def updatesCluster (clusterId : String) : Operation → Bool
  | updateCluster edit => edit.clusterId = clusterId
  | _ => false

/-- The health that an operation reports of a cluster. -/
def reports? (clusterId : String) : Operation → Option ClusterHealth
  | updateCluster edit => if edit.clusterId = clusterId then edit.health else none
  | _ => none

/-- The cordon half that an operation asks for. -/
def cordons? (clusterId : String) : Operation → Option Bool
  | cordonCluster _ asked => if asked = clusterId then some true else none
  | uncordonCluster _ asked => if asked = clusterId then some false else none
  | _ => none

/-- What cordons or uncordons a cluster moves its status. -/
theorem of_cordons? {cordoned : Bool} (h : operation.cordons? clusterId = some cordoned) :
    ∃ o, operation = .cordonCluster o clusterId ∧ cordoned = true ∨
      operation = .uncordonCluster o clusterId ∧ cordoned = false := by
  cases operation with
  | cordonCluster o asked =>
    rw [cordons?] at h
    split at h
    · next hsame => exact ⟨o, Or.inl ⟨hsame ▸ rfl, (Option.some.inj h).symm⟩⟩
    · cases h
  | uncordonCluster o asked =>
    rw [cordons?] at h
    split at h
    · next hsame => exact ⟨o, Or.inr ⟨hsame ▸ rfl, (Option.some.inj h).symm⟩⟩
    · cases h
  | _ => cases h

end Operation

/-- **What is edited under the key of a cluster was asked for that cluster.** -/
theorem Edit.asked_for_cluster {memory : Memory} {ids ids' : IdSource} {before after : Cluster}
    (h : Edit memory ids ids' operation .clusters before after) (hkeyed : memory.Keyed)
    (hkey : before.clusterId = clusterId) :
    operation.updatesCluster clusterId = true ∨ operation.cordons? clusterId ≠ none := by
  cases h with
  | @cluster edit _ _ fetched =>
    have hsame : edit.clusterId = clusterId := (hkeyed _ _ _ fetched.present).symm.trans hkey
    exact Or.inl (decide_eq_true hsame)
  | @cordon o asked _ _ fetched =>
    have hsame : asked = clusterId := (hkeyed _ _ _ fetched.present).symm.trans hkey
    rw [Operation.cordons?, if_pos hsame]
    exact Or.inr nofun
  | @uncordon o asked _ _ fetched =>
    have hsame : asked = clusterId := (hkeyed _ _ _ fetched.present).symm.trans hkey
    rw [Operation.cordons?, if_pos hsame]
    exact Or.inr nofun

/-! ### What one operation makes of a cluster -/

namespace Clusters

/-- An update that succeeds wrote the cluster that it fetched. -/
theorem ends_update_ok {edit : ClusterEdit} {answer : Cluster}
    (h : (update edit).Ends .memory world trace (.ok answer) world') :
    ∃ before, world.store.Fetched .cluster edit.organizationId edit.clusterId before ∧
      world'.store = world.store.put .clusters
        { edit.apply before with revision := before.revision + 1 } := by
  obtain ⟨⟨⟩, w₁, _, _, hvalid, h, -⟩ := ends_bind_ok h
  obtain ⟨before, w₂, _, _, hget, h, -⟩ := ends_bind_ok h
  have hvalidated := (reads_validate _).looked hvalid
  have hfetched := ChildKind.ends_get_ok hget
  rw [hvalidated.store] at hfetched
  have hlooked := hvalidated.trans ((ChildKind.cluster.reads_get _ _).looked hget)
  obtain ⟨haccepted, -, rfl⟩ := ends_perform_ok h
  obtain ⟨_, -, -, rfl, hput⟩ := Memory.replace_accepted haccepted
  refine ⟨before, hfetched, ?_⟩
  rw [← hlooked.store]
  exact hput

/-- A move that succeeds wrote the cluster that it fetched, unless it changed nothing. -/
theorem ends_move_ok {action : ClusterAction} {o : String} {answer : Cluster}
    (h : (move action o clusterId).Ends .memory world trace (.ok answer) world') :
    ∃ before status, world.store.Fetched .cluster o clusterId before ∧
      action.move before.status = .ok status ∧
      world'.store = if status = before.status then world.store
        else world.store.put .clusters { before with status, revision := before.revision + 1 } := by
  obtain ⟨before, w₁, _, _, hget, h, -⟩ := ends_bind_ok h
  obtain ⟨status, w₂, _, _, hmoved, h, -⟩ := ends_bind_ok h
  have hfetched := ChildKind.ends_get_ok hget
  have hlooked := ((ChildKind.cluster.reads_get _ _).looked hget).trans
    ((reads_check _).looked hmoved)
  obtain ⟨-, hmove, -⟩ := ends_check hmoved
  refine ⟨before, status, hfetched, hmove.symm, ?_⟩
  split at h
  · next hsame =>
    obtain ⟨-, -, rfl⟩ := ends_pure h
    rw [if_pos hsame, hlooked.store]
  · next hchanged =>
    obtain ⟨haccepted, -, rfl⟩ := ends_perform_ok h
    obtain ⟨_, -, -, rfl, hput⟩ := Memory.replace_accepted haccepted
    rw [if_neg hchanged, ← hlooked.store]
    exact hput

end Clusters

/-- A cluster with another cordon half, and the next revision if that is another status. -/
def Cluster.withCordon (cluster : Cluster) (cordoned : Bool) : Cluster :=
  let status := ClusterStatus.ofParts cluster.status.power cordoned
  if status = cluster.status then cluster
  else { cluster with status, revision := cluster.revision + 1 }

/-- `ClusterChange clusterId before operation succeeded after`: what an operation makes of a cluster
that it leaves stored. -/
inductive ClusterChange (clusterId : String) (before : Cluster) :
    Operation → Bool → Cluster → Prop
  /-- Nothing, if it failed or was about something else. -/
  | same {operation : Operation} {succeeded : Bool}
      (aside : succeeded = true →
        operation.updatesCluster clusterId = false ∧ operation.cordons? clusterId = none) :
      ClusterChange clusterId before operation succeeded before
  | updated {edit : ClusterEdit} (asked : edit.clusterId = clusterId) :
      ClusterChange clusterId before (.updateCluster edit) true
        { edit.apply before with revision := before.revision + 1 }
  | cordoned {operation : Operation} {cordoned : Bool}
      (asked : operation.cordons? clusterId = some cordoned)
      (known : before.status.power ≠ .unknown) :
      ClusterChange clusterId before operation true (before.withCordon cordoned)

/-- What an operator asked for and was granted. -/
theorem ClusterChange.of_move (action : ClusterAction) {o : String} {answer before after : Cluster}
    {cordoned : Bool} (hkeyed : world.store.Keyed)
    (h : (Clusters.move action o clusterId).Ends .memory world trace (.ok answer) world')
    (haction : action.cordon? = some cordoned)
    (hoperation : operation.cordons? clusterId = some cordoned)
    (hbefore : world.store.row? .clusters clusterId = some before)
    (hafter : world'.store.row? .clusters clusterId = some after) :
    ClusterChange clusterId before operation true after := by
  obtain ⟨found, status, hfetched, hmoved, hstore⟩ := Clusters.ends_move_ok h
  obtain rfl : found = before := Option.some.inj (hfetched.present.symm.trans hbefore)
  have hknown : found.status.power ≠ .unknown := by
    intro hunknown
    obtain ⟨what, hrefused⟩ := ClusterAction.move_of_unknown haction hunknown
    cases hmoved.symm.trans hrefused
  rw [ClusterAction.move_of_known haction hknown] at hmoved
  cases hmoved
  have hsame : after = found.withCordon cordoned := by
    rw [hstore] at hafter
    rw [Cluster.withCordon]
    split
    · next hstatus =>
      rw [if_pos hstatus, hbefore] at hafter
      exact (Option.some.inj hafter).symm
    · next hstatus =>
      have hkey : found.clusterId = clusterId := hkeyed _ _ _ hbefore
      rw [if_neg hstatus] at hafter
      exact Option.some.inj (hafter.symm.trans (Memory.row?_put_of_key_eq hkey))
  rw [hsame]
  exact .cordoned hoperation hknown

/-- **What an operation makes of a cluster that it leaves stored.** -/
theorem Operation.clusterChange {result : Except RegistryError operation.Answer}
    {before after : Cluster} (hkeyed : world.store.Keyed)
    (h : operation.procedure.Ends .memory world trace result world')
    (hbefore : world.store.row? .clusters clusterId = some before)
    (hafter : world'.store.row? .clusters clusterId = some after) :
    ClusterChange clusterId before operation result.isOk after := by
  have hkept := (operation.effect hkeyed h).row_kept hbefore hafter
  have hkey : before.clusterId = clusterId := hkeyed _ _ _ hbefore
  cases result with
  | error error =>
    obtain rfl := hkept.resolve_right nofun
    exact .same nofun
  | ok answer =>
    by_cases hupdates : operation.updatesCluster clusterId = true
    · cases operation with
      | updateCluster edit =>
        have hasked : edit.clusterId = clusterId := of_decide_eq_true hupdates
        obtain ⟨found, hfetched, hstore⟩ := Clusters.ends_update_ok h
        rw [hasked] at hfetched
        obtain rfl : found = before := Option.some.inj (hfetched.present.symm.trans hbefore)
        rw [hstore] at hafter
        cases hafter.symm.trans (Memory.row?_put_of_key_eq hkey)
        exact .updated hasked
      | _ => cases hupdates
    · cases hcordons : operation.cordons? clusterId with
      | some cordoned =>
        obtain ⟨o, ⟨rfl, rfl⟩ | ⟨rfl, rfl⟩⟩ := Operation.of_cordons? hcordons
        · exact .of_move .cordon hkeyed h rfl hcordons hbefore hafter
        · exact .of_move .uncordon hkeyed h rfl hcordons hbefore hafter
      | none =>
        -- who edits the cluster was asked to
        rcases hkept with rfl | ⟨-, hedit⟩
        · exact .same fun _ => ⟨Bool.eq_false_iff.mpr hupdates, hcordons⟩
        · rcases hedit.asked_for_cluster hkeyed hkey with hasked | hasked
          · exact absurd hasked hupdates
          · exact absurd hcordons hasked

/-! ### Histories of clusters -/

/-- The cluster that is stored under an id. -/
def Store.cluster? (store : Store) (clusterId : String) : Option Cluster :=
  (store.perform (.get .clusters clusterId)).1.toOption

theorem Store.Faithful.cluster?_eq {store : Store} (h : store.Faithful) (clusterId : String) :
    store.cluster? clusterId = store.contents.row? .clusters clusterId := by
  rw [Store.cluster?, (h.perform _).1, Memory.perform_get]
  cases store.contents.row? .clusters clusterId <;> rfl

namespace Stage

/-- The health of a cluster that was reported, and accepted. -/
def report? (clusterId : String) (stage : Stage) : Option ClusterHealth :=
  if stage.succeeded then stage.operation.reports? clusterId else none

/-- The cordon half that an operator asked for, and was granted. -/
def cordon? (clusterId : String) (stage : Stage) : Option Bool :=
  if stage.succeeded then stage.operation.cordons? clusterId else none

/-- A cluster was updated. -/
def updates (clusterId : String) (stage : Stage) : Bool :=
  stage.succeeded && stage.operation.updatesCluster clusterId

/-- A cluster was cordoned or uncordoned, and has another status since. -/
def moves (clusterId : String) (stage : Stage) : Bool :=
  (stage.cordon? clusterId).isSome &&
    (stage.before.cluster? clusterId).map (·.status) ≠
      (stage.after.cluster? clusterId).map (·.status)

end Stage

/-- What happened since a cluster was added: the operations that found it stored, and all later
ones. -/
def sinceAdded (clusterId : String) (stages : List Stage) : List Stage :=
  stages.takeWhile fun stage => (stage.before.cluster? clusterId).isSome

/-- What a cluster shows of what happened since it was added. -/
structure Follows (clusterId : String) (since : List Stage) (cluster : Cluster) : Prop where
  /-- Its power is what was reported last. -/
  power : cluster.status.power =
    (since.findSome? (·.report? clusterId)).elim .unknown ClusterHealth.power
  /-- It is cordoned if that is what an operator asked for last. -/
  cordoned : cluster.status.isCordoned = true ↔
    since.findSome? (·.cordon? clusterId) = some true
  /-- Its revision counts updates, and cordons and uncordons that changed its status. -/
  revision : cluster.revision =
    UInt64.ofNat (since.countP (·.updates clusterId) + since.countP (·.moves clusterId))

/-! ### Moves that are refused -/

/-- No failure of storage shows as a refusal. -/
theorem RegistryError.ofStore_ne_failedPrecondition (cause : StoreError) (what : Obstacle) :
    RegistryError.ofStore cause ≠ .failedPrecondition what := by
  cases cause <;> nofun

/-- **A cordon or uncordon that reads the cluster is refused if and only if its power is
unknown.** -/
theorem Clusters.move_refused_iff (action : ClusterAction) {cordoned : Bool}
    {result : Except RegistryError Cluster} {cluster : Cluster}
    (h : (Clusters.move action cluster.organizationId clusterId).Ends .memory world trace result
      world')
    (haction : action.cordon? = some cordoned)
    (hread : (⟨.get .clusters clusterId, none⟩ : Attempt) ∈ trace)
    (hrow : world.store.row? .clusters clusterId = some cluster) :
    (∃ what, result = .error (.failedPrecondition what)) ↔ cluster.status.power = .unknown := by
  rcases ends_bind h with ⟨error, hget, -⟩ | ⟨found, w₁, t₁, t₂, hget, hrest, -⟩
  · cases ChildKind.ends_get_of_read .cluster hget hread hrow rfl
  obtain rfl : found = cluster :=
    Option.some.inj ((ChildKind.ends_get_ok hget).present.symm.trans hrow)
  by_cases hunknown : found.status.power = .unknown
  · obtain ⟨what, hmove⟩ := ClusterAction.move_of_unknown haction hunknown
    refine iff_of_true ⟨what, ?_⟩ hunknown
    rw [hmove] at hrest
    rcases ends_bind hrest with ⟨error, hcheck, rfl⟩ | ⟨status, _, _, _, hcheck, -, -⟩
    · cases (ends_check hcheck).2.1
      rfl
    · cases (ends_check hcheck).2.1
  · refine iff_of_false ?_ hunknown
    rintro ⟨what, rfl⟩
    rw [ClusterAction.move_of_known haction hunknown] at hrest
    rcases ends_bind hrest with ⟨error, hcheck, -⟩ | ⟨status, w₂, t₃, t₄, -, hrest, -⟩
    · cases (ends_check hcheck).2.1
    · split at hrest
      · cases (ends_pure hrest).2.1
      · -- writing back fails for storage alone
        obtain ⟨cause, hcause⟩ := ends_perform_error hrest
        exact RegistryError.ofStore_ne_failedPrecondition cause what hcause.symm

/-! ### What is left of a history -/

theorem Cluster.status_withCordon (cluster : Cluster) (cordoned : Bool) :
    (cluster.withCordon cordoned).status = .ofParts cluster.status.power cordoned := by
  rw [Cluster.withCordon]
  split
  · next hsame => exact hsame.symm
  · rfl

theorem Cluster.revision_withCordon (cluster : Cluster) (cordoned : Bool) :
    (cluster.withCordon cordoned).revision =
      if (cluster.withCordon cordoned).status = cluster.status then cluster.revision
      else cluster.revision + 1 := by
  rw [Cluster.status_withCordon, Cluster.withCordon]
  split
  · next hsame => rfl
  · next hmoved => rfl

theorem Operation.reports?_of_not_updates (h : operation.updatesCluster clusterId = false) :
    operation.reports? clusterId = none := by
  cases operation with
  | updateCluster edit => exact if_neg (of_decide_eq_false h)
  | _ => rfl

/-- What is done about something else, or fails, leaves no trace. -/
theorem Stage.aside {stage : Stage} (h : stage.succeeded = true →
      stage.operation.updatesCluster clusterId = false ∧
        stage.operation.cordons? clusterId = none) :
    stage.report? clusterId = none ∧ stage.cordon? clusterId = none ∧
      stage.updates clusterId = false ∧ stage.moves clusterId = false := by
  rw [moves, report?, cordon?, updates]
  cases hsucceeded : stage.succeeded with
  | false => exact ⟨rfl, rfl, rfl, rfl⟩
  | true =>
    obtain ⟨hupdates, hcordons⟩ := h hsucceeded
    rw [hupdates, hcordons, Operation.reports?_of_not_updates hupdates]
    exact ⟨rfl, rfl, rfl, rfl⟩

namespace Follows

variable {since : List Stage} {before after : Cluster}

/-- A cluster shows of nothing what it was added with. -/
theorem added (hstatus : after.status = .unknown) (hrevision : after.revision = 0) :
    Follows clusterId [] after where
  power := by rw [hstatus]; rfl
  cordoned := by rw [hstatus]; exact iff_of_false nofun nofun
  revision := hrevision

theorem aside (h : Follows clusterId since after) {stage : Stage}
    (hreport : stage.report? clusterId = none) (hcordon : stage.cordon? clusterId = none)
    (hupdates : stage.updates clusterId = false) (hmoves : stage.moves clusterId = false) :
    Follows clusterId (stage :: since) after where
  power := by
    rw [List.findSome?_cons, hreport]
    exact h.power
  cordoned := by
    rw [List.findSome?_cons, hcordon]
    exact h.cordoned
  revision := by
    rw [List.countP_cons_of_neg (by rw [hupdates]; nofun),
      List.countP_cons_of_neg (by rw [hmoves]; nofun)]
    exact h.revision

/-- A report moves the power half, and each update counts. -/
theorem updated (h : Follows clusterId since before) {edit : ClusterEdit} {stored stored' : Store}
    (hasked : edit.clusterId = clusterId) :
    Follows clusterId (⟨.updateCluster edit, true, stored, stored'⟩ :: since)
      { edit.apply before with revision := before.revision + 1 } := by
  have hreport : Stage.report? clusterId ⟨.updateCluster edit, true, stored, stored'⟩ =
      edit.health := if_pos hasked
  have hcordon : Stage.cordon? clusterId ⟨.updateCluster edit, true, stored, stored'⟩ = none := rfl
  have hupdates : Stage.updates clusterId ⟨.updateCluster edit, true, stored, stored'⟩ = true :=
    decide_eq_true hasked
  have hmoves : ¬ Stage.moves clusterId ⟨.updateCluster edit, true, stored, stored'⟩ = true := nofun
  refine { power := ?_, cordoned := ?_, revision := ?_ }
  · rw [List.findSome?_cons, hreport]
    show (edit.health.elim before.status before.status.withHealth).power = _
    cases edit.health with
    | none => exact h.power
    | some health => exact before.status.power_withHealth health
  · rw [List.findSome?_cons, hcordon, ← h.cordoned]
    show (edit.health.elim before.status before.status.withHealth).isCordoned = true ↔ _
    cases edit.health with
    | none => exact Iff.rfl
    | some health => exact (before.status.isCordoned_withHealth health).symm ▸ Iff.rfl
  · rw [List.countP_cons_of_pos hupdates, List.countP_cons_of_neg hmoves, Nat.add_right_comm,
      UInt64.ofNat_add, ← h.revision]
    rfl

/-- A cordon or uncordon moves the cordon half, and counts if that was another. -/
theorem cordon (h : Follows clusterId since before) {stage : Stage} {cordoned : Bool}
    (hsucceeded : stage.succeeded = true)
    (hasked : stage.operation.cordons? clusterId = some cordoned)
    (hknown : before.status.power ≠ .unknown)
    (hbefore : stage.before.cluster? clusterId = some before)
    (hafter : stage.after.cluster? clusterId = some (before.withCordon cordoned)) :
    Follows clusterId (stage :: since) (before.withCordon cordoned) := by
  have hcordon : stage.cordon? clusterId = some cordoned := by
    rw [Stage.cordon?, if_pos hsucceeded, hasked]
  have hupdates : stage.operation.updatesCluster clusterId = false := by
    obtain ⟨o, ⟨heq, -⟩ | ⟨heq, -⟩⟩ := Operation.of_cordons? hasked
    · rw [heq]; rfl
    · rw [heq]; rfl
  have hreport : stage.report? clusterId = none := by
    rw [Stage.report?, Operation.reports?_of_not_updates hupdates, ite_self]
  have hcounts : ¬ stage.updates clusterId = true := by
    rw [Stage.updates, hupdates, Bool.and_false]
    nofun
  have hmoves : stage.moves clusterId = true ↔
      (before.withCordon cordoned).status ≠ before.status := by
    rw [Stage.moves, hcordon, hbefore, hafter, Option.isSome_some, Bool.true_and,
      decide_eq_true_iff]
    simp [eq_comm]
  refine { power := ?_, cordoned := ?_, revision := ?_ }
  · rw [List.findSome?_cons, hreport, Cluster.status_withCordon, ClusterStatus.power_ofParts]
    exact h.power
  · rw [List.findSome?_cons, hcordon, Cluster.status_withCordon,
      ClusterStatus.isCordoned_ofParts hknown]
    exact (Option.some.injEq _ _).to_iff.symm
  · rw [List.countP_cons_of_neg hcounts, Cluster.revision_withCordon]
    by_cases hsame : (before.withCordon cordoned).status = before.status
    · rw [if_pos hsame, List.countP_cons_of_neg fun hmoved => hmoves.mp hmoved hsame]
      exact h.revision
    · rw [if_neg hsame, List.countP_cons_of_pos (hmoves.mpr hsame), ← Nat.add_assoc,
        UInt64.ofNat_add, ← h.revision]
      rfl

/-- **One more operation makes of a cluster what its history says.** -/
theorem next (h : Follows clusterId since before) {stage : Stage}
    (hchange : ClusterChange clusterId before stage.operation stage.succeeded after)
    (hbefore : stage.before.cluster? clusterId = some before)
    (hafter : stage.after.cluster? clusterId = some after) :
    Follows clusterId (stage :: since) after := by
  obtain ⟨operation, succeeded, stored, stored'⟩ := stage
  cases hchange with
  | same aside =>
    obtain ⟨hreport, hcordon, hupdates, hmoves⟩ := Stage.aside aside
    exact h.aside hreport hcordon hupdates hmoves
  | updated asked => exact h.updated asked
  | cordoned asked known => exact h.cordon rfl asked known hbefore hafter

end Follows

/-! ### Runs -/

/-- **What a cluster shows follows what happened since it was added.** -/
theorem Stages.follows {start world : World Store} {stages : List Stage}
    (hfresh : start.store.Fresh) (h : Stages start stages world) {cluster : Cluster}
    (hcluster : world.store.contents.row? .clusters clusterId = some cluster) :
    (∃ add earlier request, stages = sinceAdded clusterId stages ++ add :: earlier ∧
        add.operation = .addCluster request ∧ add.before.cluster? clusterId = none) ∧
      Follows clusterId (sinceAdded clusterId stages) cluster := by
  induction h generalizing cluster with
  | start =>
    rw [hfresh.contents_eq, Memory.row?_empty] at hcluster
    cases hcluster
  | @next stages stage world world' before last ih =>
    obtain ⟨event, hstep, rfl⟩ := last
    cases hstep with | @operation _ operation time trace result ends => ?_
    obtain ⟨events, hruns⟩ := Stages.runs before
    obtain ⟨hfaithful, hkeyed⟩ := hruns.faithful hfresh
    obtain ⟨hends, hfaithful'⟩ := Program.ends_contents ends hfaithful
    have hread := hfaithful.cluster?_eq clusterId
    cases hbefore : world.store.contents.row? .clusters clusterId with
    | none =>
      -- the cluster was added just now
      have hsince : sinceAdded clusterId (⟨operation, result.isOk, world.store, world'.store⟩ ::
          stages) = [] := by
        rw [sinceAdded, List.takeWhile_cons_of_neg]
        rw [hread, hbefore]
        nofun
      have hdraft := (operation.effect hkeyed hends).drafted .cluster nofun hbefore hcluster
      rw [hsince]
      cases hdraft with
      | cluster request =>
        exact ⟨⟨_, stages, request, rfl, rfl, hread.trans hbefore⟩, .added rfl rfl⟩
    | some earlier =>
      have hsince : sinceAdded clusterId (⟨operation, result.isOk, world.store, world'.store⟩ ::
          stages) = ⟨operation, result.isOk, world.store, world'.store⟩ ::
            sinceAdded clusterId stages := by
        rw [sinceAdded, List.takeWhile_cons_of_pos]
        · rfl
        · rw [hread, hbefore]
          rfl
      obtain ⟨⟨add, before', request, hstages, hadd, habsent⟩, hfollows⟩ := ih hbefore
      have hchange := operation.clusterChange hkeyed hends hbefore hcluster
      rw [hsince]
      refine ⟨⟨add, before', request, ?_, hadd, habsent⟩,
        hfollows.next hchange (hread.trans hbefore) ((hfaithful'.cluster?_eq _).trans hcluster)⟩
      exact congrArg (List.cons _) hstages

/-- The power of a cluster is unknown if and only if none was reported. -/
theorem Follows.unknown_iff {since : List Stage} {cluster : Cluster}
    (h : Follows clusterId since cluster) :
    cluster.status.power = .unknown ↔ since.findSome? (·.report? clusterId) = none := by
  rw [h.power]
  cases since.findSome? (·.report? clusterId) with
  | none => exact iff_of_true rfl rfl
  | some health => cases health <;> exact iff_of_false nofun nofun

/-- **A cluster that is stored after a run was added in it, and shows what happened since.**  Its
power was reported last, it is cordoned if that is what an operator was granted last, and its
revision counts what was written.  A cordon or uncordon that reads it is refused if and only if no
health was reported since it was added. -/
theorem cluster_follows_history {start world : World Store} {stages : List Stage}
    (hfresh : start.store.Fresh) (h : Stages start stages world) {cluster : Cluster}
    (hcluster : world.store.cluster? clusterId = some cluster) :
    (∃ add earlier request, stages = sinceAdded clusterId stages ++ add :: earlier ∧
        add.operation = .addCluster request ∧ add.before.cluster? clusterId = none) ∧
      Follows clusterId (sinceAdded clusterId stages) cluster ∧
      ∀ operation : Operation,
        operation = .cordonCluster cluster.organizationId clusterId ∨
          operation = .uncordonCluster cluster.organizationId clusterId →
        ∀ time trace (result : Except RegistryError operation.Answer) world',
          operation.procedure.Ends .store (world.at time) trace result world' →
          (⟨.get .clusters clusterId, none⟩ : Attempt) ∈ trace →
          ((∃ what, result = .error (.failedPrecondition what)) ↔
            (sinceAdded clusterId stages).findSome? (·.report? clusterId) = none) := by
  obtain ⟨events, hruns⟩ := h.runs
  obtain ⟨hfaithful, hkeyed⟩ := hruns.faithful hfresh
  have hrow : world.store.contents.row? .clusters clusterId = some cluster :=
    (hfaithful.cluster?_eq clusterId).symm.trans hcluster
  obtain ⟨hadded, hfollows⟩ := h.follows hfresh hrow
  refine ⟨hadded, hfollows, ?_⟩
  intro operation hoperation time trace result world' ends hread
  obtain ⟨hends, -⟩ := Program.ends_contents ends hfaithful
  rw [← hfollows.unknown_iff]
  rcases hoperation with rfl | rfl
  · exact Clusters.move_refused_iff .cordon hends rfl hread hrow
  · exact Clusters.move_refused_iff .uncordon hends rfl hread hrow

/-- What is recorded with one more operation, of which the given calls are stopped. -/
def Stage.record (recorded : List Stage × World Store)
    (step : Operation × Int64 × List (Option StoreError)) : List Stage × World Store :=
  let (stages, world) := recorded
  let (operation, time, faults) := step
  let ended := operation.procedure.run.runStopping .store faults (world.at time)
  (⟨operation, ended.1.isOk, world.store, ended.2.2.store⟩ :: stages, ended.2.2)

/-- Operations with the given stops have stages. -/
theorem Stages.record {start world : World Store} {stages : List Stage}
    (h : Stages start stages world) (steps : List (Operation × Int64 × List (Option StoreError))) :
    Stages start (steps.foldl Stage.record (stages, world)).1
      (steps.foldl Stage.record (stages, world)).2 := by
  induction steps generalizing stages world with
  | nil => exact h
  | cons step rest ih =>
    exact ih (h.next (Program.ends_runStopping .store step.1.procedure.run step.2.2
      (world.at step.2.1)))

/-- A cluster is cordoned before it reports, which is refused, and twice after that; another report
does not reach storage. -/
theorem cluster_follows_history_of_stopped_report :
    let start : World Store := { store := .memory .empty, ids := .sequential "id", clock := 0 }
    let report : ClusterHealth → Operation := fun health =>
      .updateCluster { (default : ClusterEdit) with
        organizationId := "id-1", clusterId := "id-2", health := some health }
    let steps : List (Operation × Int64 × List (Option StoreError)) :=
      [(.addOrganization { (default : NewOrganization) with name := "acme" }, 1, []),
        (.addCluster { (default : NewCluster) with
          organizationId := "id-1", name := "edge", hostname := "edge.acme" }, 2, []),
        (.cordonCluster "id-1" "id-2", 3, []),
        (report .online, 4, []),
        (.cordonCluster "id-1" "id-2", 5, []),
        (.cordonCluster "id-1" "id-2", 6, []),
        (report .offline, 7, [none, none, some (.write "down")])]
    let stages := (steps.foldl Stage.record ([], start)).1
    let world := (steps.foldl Stage.record ([], start)).2
    Stages start stages world ∧ ∃ cluster, world.store.cluster? "id-2" = some cluster ∧
      cluster.status = .onlineCordon ∧ cluster.revision = 2 ∧
      Follows "id-2" (sinceAdded "id-2" stages) cluster ∧
      ∀ time trace result world',
        (Operation.uncordonCluster "id-1" "id-2").procedure.Ends .store (world.at time) trace result
          world' →
        (⟨.get .clusters "id-2", none⟩ : Attempt) ∈ trace →
        ∀ what, result ≠ .error (.failedPrecondition what) := by
  intro start report steps stages world
  have hstages : Stages start stages world := Stages.start.record steps
  have hstored : (world.store.cluster? "id-2").map
      (fun cluster => (cluster.organizationId, cluster.status, cluster.revision)) =
        some ("id-1", .onlineCordon, 2) := by
    decide +kernel
  have hreported : (sinceAdded "id-2" stages).findSome? (·.report? "id-2") = some .online := by
    decide +kernel
  obtain ⟨cluster, hcluster, hparts⟩ := Option.map_eq_some_iff.mp hstored
  obtain ⟨howner, hstatus, hrevision⟩ : cluster.organizationId = "id-1" ∧
      cluster.status = .onlineCordon ∧ cluster.revision = 2 := by
    simpa using hparts
  obtain ⟨-, hfollows, hrefused⟩ := cluster_follows_history (Or.inl rfl) hstages hcluster
  refine ⟨hstages, cluster, hcluster, hstatus, hrevision, hfollows, ?_⟩
  intro time trace result world' hends hread what heq
  have hnone := (hrefused _ (Or.inr (howner ▸ rfl)) time trace result world' hends hread).mp
    ⟨what, heq⟩
  cases hreported.symm.trans hnone

end TenantRegistry
