/-
TenantRegistry/Proofs/Views.lean

What an organization can see.

An organization sees its own row, what the index lists for it, and the rows
that are stored under what is listed.  All of this stands among the things of
others: a listing scans the index, and rows are fetched from shared tables by
their keys alone.  But an answer depends on nothing else.  Where none of it has
changed (`Undisturbed`), each view of the organization answers as it did before,
with a success or with an error.

The runs of a view over storage before and after are taken together
(`Procedure.Alike`): they make the same calls, as long as these are answered
alike.

Main result: `Undisturbed.answer`.
-/
import TenantRegistry.Proofs.Consistency

namespace TenantRegistry

open Procedure

/-- `view.Views o`: the operation shows something to an organization and changes nothing. -/
inductive Operation.Views (o : String) : Operation → Prop
  | organization : Views o (.getOrganization o)
  | child (kind : ChildKind) (childId : String) : Views o (.get kind o childId)
  | list (kind : ChildKind) : Views o (.list kind o)
  | snapshot (instanceId : String) : Views o (.getSnapshot o instanceId)
  | parameters (instanceId : String) : Views o (.getParameters o instanceId)

/-! ### Two runs of one procedure -/

namespace Procedure

variable {α β : Type} {world world' : World Memory}

/-- The procedure has one result in both worlds, and changes neither. -/
def Alike (procedure : Procedure α) (world world' : World Memory) : Prop :=
  ∃ result, procedure.runWith .memory world = (result, world) ∧
    procedure.runWith .memory world' = (result, world')

/-- **Both runs go on together.** -/
theorem Alike.bind {procedure : Procedure α} {f : α → Procedure β}
    (h : procedure.Alike world world')
    (hf : ∀ value trace, procedure.Ends .memory world trace (.ok value) world →
      (f value).Alike world world') : (procedure >>= f).Alike world world' := by
  obtain ⟨result, hrun, hrun'⟩ := h
  cases result with
  | error error => exact ⟨.error error, runWith_bind_error hrun, runWith_bind_error hrun'⟩
  | ok value =>
    obtain ⟨trace, -, hends⟩ := ends_runWith .memory procedure world
    rw [hrun] at hends
    obtain ⟨result, hrest, hrest'⟩ := hf value trace hends
    refine ⟨result, ?_, ?_⟩
    · rw [runWith_bind_ok hrun, hrest]
    · rw [runWith_bind_ok hrun', hrest']

theorem alike_pure (value : α) : (pure value : Procedure α).Alike world world' :=
  ⟨.ok value, rfl, rfl⟩

theorem alike_throw (error : RegistryError) : (throw error : Procedure α).Alike world world' :=
  ⟨.error error, rfl, rfl⟩

/-- A call that both memories answer alike. -/
theorem alike_attempt (call : Call) (hreads : call.Reads)
    (h : (world'.store.perform call).1 = (world.store.perform call).1) :
    (attempt call).Alike world world' := by
  refine ⟨.ok (world.store.perform call).1, ?_, ?_⟩
  · exact runWith_attempt (Prod.ext rfl (Memory.perform_of_reads _ hreads))
  · exact runWith_attempt (Prod.ext h (Memory.perform_of_reads _ hreads))

theorem alike_perform (call : Call) (hreads : call.Reads)
    (h : (world'.store.perform call).1 = (world.store.perform call).1) :
    (perform call).Alike world world' := by
  have hstore := Memory.perform_of_reads world.store hreads
  have hstore' := Memory.perform_of_reads world'.store hreads
  cases hanswer : (world.store.perform call).1 with
  | error error =>
    exact ⟨.error (.ofStore error), runWith_perform_error (Prod.ext hanswer hstore),
      runWith_perform_error (Prod.ext (h.trans hanswer) hstore')⟩
  | ok answer =>
    exact ⟨.ok answer, runWith_perform (Prod.ext hanswer hstore),
      runWith_perform (Prod.ext (h.trans hanswer) hstore')⟩

theorem alike_get {table : Table} {key : String}
    (h : world'.store.row? table key = world.store.row? table key) :
    (perform (.get table key)).Alike world world' := by
  refine alike_perform (.get table key) trivial ?_
  rw [Memory.perform_get, Memory.perform_get, h]

/-- Whose row it is, is seen from the row. -/
theorem alike_checkOwner (kind : ChildKind) (o : String) (row : kind.Row) :
    (kind.checkOwner o row).Alike world world' := by
  rw [ChildKind.checkOwner]
  split
  · exact alike_pure _
  · exact alike_throw _

end Procedure

/-! ### Storage as far as an organization sees it -/

/-- `Undisturbed o before after`: nothing that the organization sees is different. -/
structure Undisturbed (o : String) (before after : Memory) : Prop where
  organization : after.row? .organizations o = before.row? .organizations o
  listed : ∀ kind c, after.hasChild o kind c = before.hasChild o kind c
  rows : ∀ (kind : ChildKind) c table, before.hasChild o kind c = true → kind.Holds table →
    after.row? table c = before.row? table c

namespace Undisturbed

variable {o : String} {before after : Memory}

theorem refl (o : String) (memory : Memory) : Undisturbed o memory memory :=
  ⟨rfl, fun _ _ => rfl, fun _ _ _ _ _ => rfl⟩

/-- The index lists the same children, in the same order. -/
theorem listChildren (h : Undisturbed o before after) (kind : ChildKind) :
    after.listChildren o kind = before.listChildren o kind := by
  have hthere : after.hasOrganization o = before.hasOrganization o :=
    congrArg Option.isSome h.organization
  -- both lists ascend, and so it is enough that they have the same members
  have hids : after.listedIds o kind = before.listedIds o kind := by
    refine List.Pairwise.eq_of_mem_iff (after.pairwise_listedIds o kind)
      (before.pairwise_listedIds o kind) fun c => ?_
    rw [Memory.mem_listedIds_iff, Memory.mem_listedIds_iff, h.listed]
  rw [Memory.listChildren_eq, Memory.listChildren_eq, hthere, hids]

variable {world world' : World Memory} {kind : ChildKind} {c : String}

theorem alike_require (h : Undisturbed o world.store world'.store) (kind : ChildKind) (c : String) :
    (kind.require o c).Alike world world' := by
  have hsame : (world'.store.perform (.hasChild o kind c)).1 =
      (world.store.perform (.hasChild o kind c)).1 := congrArg Except.ok (h.listed kind c)
  refine (alike_perform (.hasChild o kind c) trivial hsame).bind fun found _ _ => ?_
  cases found
  · exact alike_throw _
  · exact alike_pure _

theorem alike_child (h : Undisturbed o world.store world'.store) (kind : ChildKind) (c : String) :
    (kind.get o c).Alike world world' := by
  refine (h.alike_require kind c).bind fun _ _ hrequired => ?_
  have hlisted := ChildKind.ends_require_ok hrequired
  refine (alike_get (h.rows kind c _ hlisted kind.holds_table)).bind fun row _ _ => ?_
  exact (alike_checkOwner kind o row).bind fun _ _ _ => alike_pure row

theorem alike_getAll (h : Undisturbed o world.store world'.store) {ids : List String}
    (hids : ∀ c ∈ ids, world.store.hasChild o kind c = true) :
    (kind.getAll o ids).Alike world world' := by
  induction ids with
  | nil => exact alike_pure _
  | cons c rest ih =>
    obtain ⟨hlisted, hrest⟩ := List.forall_mem_cons.mp hids
    have hsame : (world'.store.perform (.get kind.table c)).1 =
        (world.store.perform (.get kind.table c)).1 := by
      rw [Memory.perform_get, Memory.perform_get, h.rows kind c _ hlisted kind.holds_table]
    refine (alike_attempt (.get kind.table c) trivial hsame).bind fun answer _ _ => ?_
    -- a row that is found is checked, and one that is missing is skipped
    split
    · refine (alike_checkOwner kind o _).bind fun _ _ _ => ?_
      exact (ih hrest).bind fun _ _ _ => alike_pure _
    · exact ih hrest
    · exact alike_throw _

theorem alike_list (h : Undisturbed o world.store world'.store) (kind : ChildKind) :
    (kind.list o).Alike world world' := by
  refine (alike_perform (.listChildren o kind) trivial (h.listChildren kind)).bind
    fun ids _ hends => ?_
  obtain rfl := ends_listChildren_ok hends
  exact h.alike_getAll fun c hmem => world.store.mem_listedIds_iff.mp hmem

theorem alike_copy (h : Undisturbed o world.store world'.store) {table : Table}
    (htable : table = .snapshots ∨ table = .parameters) (c : String) :
    (ChildKind.appInstance.require o c >>= fun _ => perform (.get table c)).Alike world world' := by
  refine (h.alike_require .appInstance c).bind fun _ _ hrequired => ?_
  have hlisted := ChildKind.ends_require_ok hrequired
  exact alike_get (h.rows .appInstance c table hlisted (Or.inr ⟨rfl, htable⟩))

/-- **Every view of the organization answers as before.** -/
theorem answer (h : Undisturbed o world.store world'.store) {view : Operation}
    (hview : view.Views o) :
    (view.procedure.runWith .memory world').1 = (view.procedure.runWith .memory world).1 := by
  have halike : view.procedure.Alike world world' := by
    cases hview with
    | organization => exact alike_get h.organization
    | child kind c => exact h.alike_child kind c
    | list kind => exact h.alike_list kind
    | snapshot c => exact h.alike_copy (Or.inl rfl) c
    | parameters c => exact h.alike_copy (Or.inr rfl) c
  obtain ⟨result, hrun, hrun'⟩ := halike
  rw [hrun, hrun']

end Undisturbed

end TenantRegistry
