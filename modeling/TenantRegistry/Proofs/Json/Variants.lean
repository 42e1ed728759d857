/-
TenantRegistry/Proofs/Json/Variants.lean

Texts from before a field existed, and from after it is gone.

A variant of a written value (`Layout.Variant`) is what another version of the
records may have written for it.  At any depth, a member may be missing whose
field has a value to assume and holds the default of its kind (`IsDefault`), or
is optional and has no value; and a record may have members between its own that
name none of its fields and hold scalars (`Extends`).

The defaults are said by the kind of a layout and not by what a reader assumes.
That the two agree in every field is a property of a layout (`AssumesDefaults`),
and where it holds, every variant is read as the value (`decode_of_variant`).
A layout hands the property down to the records that stand inside it
(`assumesDefaults_of_mem_records`).
-/
import TenantRegistry.Proofs.Json.Layouts

namespace TenantRegistry

/-! ### Members that name no field -/

/-- A value without items and members. -/
inductive Json.Scalar : Json → Prop
  | null : Scalar .null
  | boolean (value : Bool) : Scalar (.boolean value)
  | integer (value : Int) : Scalar (.number (.integer value))
  | decimal (d : Json.Decimal) : Scalar (.number (.decimal d.text))
  | string (text : Option String) : Scalar (.string text)

theorem Json.Scalar.writable {json : Json} (h : json.Scalar) : json.Writable := by
  cases h with
  | null => exact .null
  | boolean value => exact .boolean value
  | integer value => exact .integer value
  | decimal d => exact .decimal d
  | string text => exact .string text

/-- `Extends names own members`: the members are `own`, in their order, and
between them any that hold scalars under names that are none of `names`. -/
inductive Extends (names : List String) :
    List (Option String × Json) → List (Option String × Json) → Prop
  | nil : Extends names [] []
  | own (member : Option String × Json) {own members : List (Option String × Json)}
      (h : Extends names own members) : Extends names (member :: own) (member :: members)
  | foreign {name : String} {value : Json} {own members : List (Option String × Json)}
      (hname : name ∉ names) (hvalue : value.Scalar) (h : Extends names own members) :
      Extends names own ((some name, value) :: members)

namespace Extends

variable {names : List String} {own members : List (Option String × Json)}

/-- Foreign members do not show under the names of fields. -/
theorem givenUnder_eq (h : Extends names own members) {name : String} (hmem : name ∈ names) :
    givenUnder name members = givenUnder name own := by
  induction h with
  | nil => rfl
  | own member _ ih => rw [givenUnder_cons, givenUnder_cons, ih]
  | foreign hname _ _ ih =>
    rw [givenUnder_cons, if_neg, ih]
    rintro ⟨⟩
    exact hname hmem

/-- Foreign members have names. -/
theorem allNamed_eq (h : Extends names own members) : allNamed members = allNamed own := by
  induction h with
  | nil => rfl
  | own member _ ih => exact congrArg (member.1.isSome && ·) ih
  | foreign _ _ _ ih => exact ih

theorem writable (h : Extends names own members) (hown : ∀ member ∈ own, member.2.Writable) :
    ∀ member ∈ members, member.2.Writable := by
  induction h with
  | nil => exact hown
  | own member _ ih =>
    rw [List.forall_mem_cons] at hown ⊢
    exact ⟨hown.1, ih hown.2⟩
  | foreign _ hvalue _ ih => exact List.forall_mem_cons.mpr ⟨hvalue.writable, ih hown⟩

end Extends

/-! ### Variants of what is written -/

/-- The defaults, by the kind of a layout: nothing, zero, `false`, the two
enumerations that have one, and of records one copy on one cluster and no
resources. -/
def Layout.IsDefault {α : Type} : Layout α → α → Prop
  | .text, value => value = ""
  | .flag, value => value = false
  | .count32, value => value = 0
  | .count64, value => value = 0
  | .signed64, value => value = 0
  | .choice _ name _, value => name value = "same_cluster" ∨ name value = "ephemeral"
  | .list _, values => values = []
  | .labels, map => map = .empty
  | .record fields split _ _ _, value =>
    fields.encode (split value) =
        [(some "replicas", .ofInt 1), (some "multi_cluster_replica", .boolean false)] ∨
      fields.encode (split value) =
        [(some "cpu_millis", .ofInt 0), (some "memory_bytes", .ofInt 0)]

mutual

/-- `layout.Variant value json`: what stands for the value in JSON, but for
members that are left out and foreign members. -/
def Layout.Variant {α : Type} : Layout α → α → Json → Prop
  | .list item, values, json =>
    ∃ items, json = .array items ∧ List.Forall₂ item.Variant values items
  | @Layout.record _ _ names fields split _ _ _, value, json =>
    ∃ own members, json = .object members ∧ fields.Variant (split value) own ∧
      Extends names own members
  | layout, value, json => json = layout.encode value

/-- The members of a record that are not left out. -/
def Fields.Variant {names : List String} {β : Type} :
    Fields names β → β → List (Option String × Json) → Prop
  | .nil, _, own => own = []
  | .field name missing layout rest, tuple, own =>
    ∃ more, rest.Variant tuple.2 more ∧
      ((∃ json, layout.Variant tuple.1 json ∧ own = (some name, json) :: more) ∨
        missing.isSome = true ∧ layout.IsDefault tuple.1 ∧ own = more)
  | .optional name _ layout rest, tuple, own =>
    ∃ more, rest.Variant tuple.2 more ∧
      ((∃ value json, tuple.1 = some value ∧ layout.Variant value json ∧
          own = (some name, json) :: more) ∨
        tuple.1 = none ∧ (own = (some name, .null) :: more ∨ own = more))

end

mutual

/-- What is assumed of a missing field is the default of its kind, and the only
one: in every field of every record that the layout reads. -/
def Layout.AssumesDefaults {α : Type} : Layout α → Prop
  | .list item => item.AssumesDefaults
  | .record fields _ _ _ _ => fields.AssumesDefaults
  | _ => True

def Fields.AssumesDefaults {names : List String} {β : Type} : Fields names β → Prop
  | .nil => True
  | .field _ missing layout rest =>
    (∀ assumed ∈ missing, ∀ value, layout.IsDefault value ↔ value = assumed) ∧
      layout.AssumesDefaults ∧ rest.AssumesDefaults
  | .optional _ _ layout rest => layout.AssumesDefaults ∧ rest.AssumesDefaults

end

mutual

/-- The layouts of the records that a layout reads, its own among them. -/
def Layout.records {α : Type} : Layout α → List (Σ α : Type, Layout α)
  | .list item => item.records
  | .record fields split join join_split distinct =>
    ⟨α, .record fields split join join_split distinct⟩ :: fields.records
  | _ => []

def Fields.records {names : List String} {β : Type} : Fields names β → List (Σ α : Type, Layout α)
  | .nil => []
  | .field _ _ layout rest => layout.records ++ rest.records
  | .optional _ _ layout rest => layout.records ++ rest.records

end

namespace Fields

variable {α β : Type} {names : List String} {name : String} {layout : Layout α}
  {rest : Fields names β} {value : α} {json : Json} {tuple : β}
  {more : List (Option String × Json)}

theorem variant_given {missing : Option α} (hvalue : layout.Variant value json)
    (hrest : rest.Variant tuple more) :
    (Fields.field name missing layout rest).Variant (value, tuple) ((some name, json) :: more) :=
  ⟨more, hrest, .inl ⟨json, hvalue, rfl⟩⟩

theorem variant_left_out {assumed : α} (hvalue : layout.IsDefault value)
    (hrest : rest.Variant tuple more) :
    (Fields.field name (some assumed) layout rest).Variant (value, tuple) more :=
  ⟨more, hrest, .inr ⟨rfl, hvalue, rfl⟩⟩

end Fields

/-! ### Reading a variant -/

/-- The members of a variant have the names of fields. -/
theorem Fields.named_of_variant :
    {names : List String} → {β : Type} → (fields : Fields names β) → (tuple : β) →
      {own : List (Option String × Json)} → fields.Variant tuple own → Named names own
  | _, _, .nil, _, _, h => by
    obtain rfl : _ = [] := h
    exact .nil
  | _, _, .field name _ _ rest, tuple, _, h => by
    obtain ⟨more, hmore, h⟩ := h
    have hrest := rest.named_of_variant tuple.2 hmore
    rcases h with ⟨json, -, rfl⟩ | ⟨-, -, rfl⟩
    · exact hrest.cons name json
    · exact hrest.weaken name
  | _, _, .optional name _ _ rest, tuple, _, h => by
    obtain ⟨more, hmore, h⟩ := h
    have hrest := rest.named_of_variant tuple.2 hmore
    rcases h with ⟨_, json, -, -, rfl⟩ | ⟨-, rfl | rfl⟩
    · exact hrest.cons name json
    · exact hrest.cons name .null
    · exact hrest.weaken name

/-- What is written as it is, is read. -/
theorem decode_of_eq_encode {α : Type} {layout : Layout α} {value : α} {json : Json}
    (h : json = layout.encode value) : layout.decode json = some value := by
  rw [h, layout.decode_encode]

mutual

/-- **A value is read from every variant of what it is written as.** -/
theorem Layout.decode_of_variant :
    {α : Type} → (layout : Layout α) → layout.AssumesDefaults → (value : α) → {json : Json} →
      layout.Variant value json → layout.decode json = some value
  | _, .text, _, _, _, h => decode_of_eq_encode h
  | _, .flag, _, _, _, h => decode_of_eq_encode h
  | _, .count32, _, _, _, h => decode_of_eq_encode h
  | _, .count64, _, _, _, h => decode_of_eq_encode h
  | _, .signed64, _, _, _, h => decode_of_eq_encode h
  | _, .choice _ _ _, _, _, _, h => decode_of_eq_encode h
  | _, .labels, _, _, _, h => decode_of_eq_encode h
  | _, .list item, hdefaults, _, _, h => by
    obtain ⟨items, rfl, h⟩ := h
    rw [Layout.decode, Json.items?, Option.bind_some]
    exact mapM_decode_of_forall₂ (h.imp fun value _ => item.decode_of_variant hdefaults value)
  | _, .record fields split join join_split distinct, hdefaults, value, _, h => by
    obtain ⟨own, members, rfl, hown, hmembers⟩ := h
    have hread := fields.decodeMembers_of_variant hdefaults (split value) hown distinct
      fun name hmem => hmembers.givenUnder_eq hmem
    have hnamed : allNamed members = true := by
      rw [hmembers.allNamed_eq, (fields.named_of_variant (split value) hown).allNamed]
    rw [Layout.decode]
    simp only [hnamed, if_true, hread, Option.map_some, join_split]

/-- A record is read from any members that agree under the names of its fields
with those of a variant. -/
theorem Fields.decodeMembers_of_variant :
    {names : List String} → {β : Type} → (fields : Fields names β) → fields.AssumesDefaults →
      (tuple : β) → {own : List (Option String × Json)} → fields.Variant tuple own →
      names.Nodup → {members : List (Option String × Json)} →
      (∀ name ∈ names, givenUnder name members = givenUnder name own) →
      fields.decodeMembers members = some tuple
  | _, _, .nil, _, _, _, _, _, _, _ => rfl
  | _, _, .field name missing layout rest, hdefaults, tuple, own, h, distinct, members, hagree => by
    obtain ⟨hassumed, hlayout, hdefaults⟩ := hdefaults
    obtain ⟨hfresh, hdistinct⟩ := List.nodup_cons.mp distinct
    obtain ⟨more, hmore, h⟩ := h
    have hread := @Fields.decodeMembers_of_variant _ _ rest hdefaults tuple.2 more hmore hdistinct
      members
    have hnone := (rest.named_of_variant tuple.2 hmore).givenUnder_eq_nil hfresh
    rw [Fields.decodeMembers, hagree name List.mem_cons_self]
    rcases h with ⟨json, hjson, rfl⟩ | ⟨hmissing, hdefault, rfl⟩
    · rw [givenUnder_cons, if_pos rfl, hnone, hread (agree_of_cons hfresh hagree)]
      simp only [layout.decode_of_variant hlayout tuple.1 hjson, Option.bind_some, Option.map_some]
    · -- the field is left out, and what is assumed of it is what it holds
      obtain ⟨assumed, rfl⟩ := Option.isSome_iff_exists.mp hmissing
      have hvalue : tuple.1 = assumed := (hassumed assumed rfl tuple.1).mp hdefault
      rw [hnone, hread fun other hmem => hagree other (List.mem_cons_of_mem name hmem)]
      simp only [Option.bind_some, Option.map_some, ← hvalue]
  | _, _, .optional name _ layout rest, hdefaults, tuple, own, h, distinct, members, hagree => by
    obtain ⟨hlayout, hdefaults⟩ := hdefaults
    obtain ⟨hfresh, hdistinct⟩ := List.nodup_cons.mp distinct
    obtain ⟨more, hmore, h⟩ := h
    have hread := @Fields.decodeMembers_of_variant _ _ rest hdefaults tuple.2 more hmore hdistinct
      members
    have hnone := (rest.named_of_variant tuple.2 hmore).givenUnder_eq_nil hfresh
    rw [Fields.decodeMembers, hagree name List.mem_cons_self]
    rcases h with ⟨value, json, hvalue, hjson, rfl⟩ | ⟨hvalue, rfl | rfl⟩
    · rw [givenUnder_cons, if_pos rfl, hnone, hread (agree_of_cons hfresh hagree)]
      simp only [readOptional_of_decode (layout.decode_of_variant hlayout value hjson),
        Option.bind_some, Option.map_some, ← hvalue]
    · rw [givenUnder_cons, if_pos rfl, hnone, hread (agree_of_cons hfresh hagree)]
      simp only [readOptional, Option.bind_some, Option.map_some, ← hvalue]
    · rw [hnone, hread fun other hmem => hagree other (List.mem_cons_of_mem name hmem)]
      simp only [Option.bind_some, Option.map_some, ← hvalue]

end

/-! ### From the text of a variant -/

theorem writable_of_eq_encode {α : Type} {layout : Layout α} {value : α} {json : Json}
    (h : json = layout.encode value) : json.Writable := by
  rw [h]
  exact layout.writable_encode value

mutual

/-- A variant can be printed. -/
theorem Layout.writable_of_variant :
    {α : Type} → (layout : Layout α) → (value : α) → {json : Json} →
      layout.Variant value json → json.Writable
  | _, .text, _, _, h => writable_of_eq_encode h
  | _, .flag, _, _, h => writable_of_eq_encode h
  | _, .count32, _, _, h => writable_of_eq_encode h
  | _, .count64, _, _, h => writable_of_eq_encode h
  | _, .signed64, _, _, h => writable_of_eq_encode h
  | _, .choice _ _ _, _, _, h => writable_of_eq_encode h
  | _, .labels, _, _, h => writable_of_eq_encode h
  | _, .list item, _, _, h => by
    obtain ⟨items, rfl, h⟩ := h
    have hitems : List.Forall₂ (flip fun json value => json.Writable ∧ item.Variant value json)
        _ items := h.imp fun value json hjson => ⟨item.writable_of_variant value hjson, hjson⟩
    exact .array ((List.forall₂_and_left items _).mp hitems.flip).1
  | _, .record fields split _ _ _, value, _, h => by
    obtain ⟨own, members, rfl, hown, hmembers⟩ := h
    exact .object (hmembers.writable (fields.writable_of_variant (split value) hown))

theorem Fields.writable_of_variant :
    {names : List String} → {β : Type} → (fields : Fields names β) → (tuple : β) →
      {own : List (Option String × Json)} → fields.Variant tuple own →
      ∀ member ∈ own, member.2.Writable
  | _, _, .nil, _, _, h => by
    obtain rfl : _ = [] := h
    exact fun member hmem => absurd hmem List.not_mem_nil
  | _, _, .field _ _ layout rest, tuple, _, h => by
    obtain ⟨more, hmore, h⟩ := h
    have hrest := rest.writable_of_variant tuple.2 hmore
    rcases h with ⟨json, hjson, rfl⟩ | ⟨-, -, rfl⟩
    · exact List.forall_mem_cons.mpr ⟨layout.writable_of_variant tuple.1 hjson, hrest⟩
    · exact hrest
  | _, _, .optional _ _ layout rest, tuple, _, h => by
    obtain ⟨more, hmore, h⟩ := h
    have hrest := rest.writable_of_variant tuple.2 hmore
    rcases h with ⟨value, json, -, hjson, rfl⟩ | ⟨-, rfl | rfl⟩
    · exact List.forall_mem_cons.mpr ⟨layout.writable_of_variant value hjson, hrest⟩
    · exact List.forall_mem_cons.mpr ⟨.null, hrest⟩
    · exact hrest

end

/-- **A value is read from the compact text of every variant.** -/
theorem Layout.parse_compact_of_variant {α : Type} {layout : Layout α}
    (hdefaults : layout.AssumesDefaults) {value : α} {json : Json} (h : layout.Variant value json) :
    (Json.parse json.toCompact).bind layout.decode = some value := by
  rw [Json.parse_toCompact (layout.writable_of_variant value h), Option.bind_some,
    layout.decode_of_variant hdefaults value h]

/-! ### Records inside records -/

mutual

/-- The records that stand in a value assume the defaults if the value does. -/
theorem Layout.assumesDefaults_of_mem_records :
    {α : Type} → (layout : Layout α) → layout.AssumesDefaults →
      ∀ part ∈ layout.records, part.2.AssumesDefaults
  | _, .text, _, _, hmem => absurd hmem List.not_mem_nil
  | _, .flag, _, _, hmem => absurd hmem List.not_mem_nil
  | _, .count32, _, _, hmem => absurd hmem List.not_mem_nil
  | _, .count64, _, _, hmem => absurd hmem List.not_mem_nil
  | _, .signed64, _, _, hmem => absurd hmem List.not_mem_nil
  | _, .choice _ _ _, _, _, hmem => absurd hmem List.not_mem_nil
  | _, .labels, _, _, hmem => absurd hmem List.not_mem_nil
  | _, .list item, h, part, hmem => item.assumesDefaults_of_mem_records h part hmem
  | _, .record fields _ _ _ _, h, part, hmem => by
    rcases List.mem_cons.mp hmem with rfl | hmem
    · exact h
    · exact fields.assumesDefaults_of_mem_records h part hmem

theorem Fields.assumesDefaults_of_mem_records :
    {names : List String} → {β : Type} → (fields : Fields names β) → fields.AssumesDefaults →
      ∀ part ∈ fields.records, part.2.AssumesDefaults
  | _, _, .nil, _, _, hmem => absurd hmem List.not_mem_nil
  | _, _, .field _ _ layout rest, h, part, hmem => by
    obtain ⟨-, hlayout, hrest⟩ := h
    rcases List.mem_append.mp hmem with hmem | hmem
    · exact layout.assumesDefaults_of_mem_records hlayout part hmem
    · exact rest.assumesDefaults_of_mem_records hrest part hmem
  | _, _, .optional _ _ layout rest, h, part, hmem => by
    obtain ⟨hlayout, hrest⟩ := h
    rcases List.mem_append.mp hmem with hmem | hmem
    · exact layout.assumesDefaults_of_mem_records hlayout part hmem
    · exact rest.assumesDefaults_of_mem_records hrest part hmem

end

end TenantRegistry
