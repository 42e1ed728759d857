/-
TenantRegistry/Proofs/EarlierTexts.lean

Records written before a field existed stay readable.

Fields were added to records after the first of them were stored, and a text is
read as it was written.  Each such field has a value that is assumed where it is
missing.  For a record that holds this value, also deep inside a document, the
old text is as good as the one that would be written now; and members that a
record no longer has, or does not have yet, are passed over.

What a reader needs for this is that it assumes the right value in every field of
every record, which is one property of all tables (`Table.assumesDefaults`).  The
values themselves are said once, by kind, in `Layout.IsDefault`.

Main result: `earlier_texts_read_back`.
-/
import TenantRegistry.Proofs.Json.Variants
import TenantRegistry.Storage.Durable

namespace TenantRegistry

/-! ### What is assumed of the fields of a record -/

namespace Fields

variable {α β : Type} [HasLayout α] {names : List String} {name : String} {rest : Fields names β}

@[simp] theorem assumesDefaults_nil : Fields.nil.AssumesDefaults := trivial

@[simp] theorem assumesDefaults_required :
    (Fields.required name rest : Fields (name :: names) (α × β)).AssumesDefaults ↔
      (HasLayout.layout : Layout α).AssumesDefaults ∧ rest.AssumesDefaults := by
  simp [required, AssumesDefaults]

@[simp] theorem assumesDefaults_defaulting {missing : α} :
    (Fields.defaulting name missing rest).AssumesDefaults ↔
      (∀ value, (HasLayout.layout : Layout α).IsDefault value ↔ value = missing) ∧
        (HasLayout.layout : Layout α).AssumesDefaults ∧ rest.AssumesDefaults := by
  simp [defaulting, AssumesDefaults]

@[simp] theorem assumesDefaults_trailingOption :
    (Fields.trailingOption name rest : Fields (name :: names) (Option α × β)).AssumesDefaults ↔
      (HasLayout.layout : Layout α).AssumesDefaults ∧ rest.AssumesDefaults := by
  simp [trailingOption, AssumesDefaults]

end Fields

/-! ### The defaults that are not of a basic kind -/

theorem isDefault_policy_iff (policy : CollocationPolicy) :
    (HasLayout.layout : Layout CollocationPolicy).IsDefault policy ↔ policy = .sameCluster := by
  cases policy <;> simp [HasLayout.layout, Layout.IsDefault, CollocationPolicy.name]

theorem isDefault_storageKind_iff (kind : StorageKind) :
    (HasLayout.layout : Layout StorageKind).IsDefault kind ↔ kind = .ephemeral := by
  cases kind <;> simp [HasLayout.layout, Layout.IsDefault, StorageKind.name]

/-- One copy is the default of the whole record, and of no field in it. -/
theorem isDefault_replication_iff (specs : Replication) :
    (HasLayout.layout : Layout Replication).IsDefault specs ↔ specs = .single := by
  obtain ⟨replicas, multiCluster⟩ := specs
  have hone : replicas = 1 ↔ (replicas.toNat : Int) = 1 :=
    UInt32.toNat_inj.symm.trans Int.ofNat_inj.symm
  simp [HasLayout.layout, Layout.IsDefault, Replication.single, Fields.required, Fields.defaulting,
    Fields.encode, Layout.encode, Json.ofInt, hone]

theorem isDefault_resources_iff (resources : Resources) :
    (HasLayout.layout : Layout Resources).IsDefault resources ↔ resources = .none := by
  obtain ⟨cpuMillis, memoryBytes⟩ := resources
  have hcpu : cpuMillis = 0 ↔ cpuMillis.toNat = 0 := UInt64.toNat_inj.symm
  have hmemory : memoryBytes = 0 ↔ memoryBytes.toNat = 0 := UInt64.toNat_inj.symm
  simp [HasLayout.layout, Layout.IsDefault, Resources.none, Fields.required, Fields.encode,
    Layout.encode, Json.ofInt, hcpu, hmemory]

/-- **What is assumed of a missing field is its default**, in the rows of every
table and in all records inside them. -/
theorem Table.assumesDefaults (table : Table) : table.rowLayout.AssumesDefaults := by
  cases table with
  | descriptors | snapshots =>
    -- a descriptor has the fields of groups and services with defaults of their own
    simpa [rowLayout, HasLayout.layout, Layout.AssumesDefaults, Layout.IsDefault] using
      ⟨isDefault_policy_iff, isDefault_replication_iff, isDefault_resources_iff,
        isDefault_storageKind_iff⟩
  | _ => simp [rowLayout, HasLayout.layout, Layout.AssumesDefaults, Layout.IsDefault]

/-! ### Main result -/

/-- **Records written before a field existed stay readable.**  For each table,
and for each record that stands inside its rows: a variant of what is written for
a value is read as this value, from its compact text and from any other text of
the same JSON. -/
theorem earlier_texts_read_back (table : Table) :
    (∀ (row : table.Row) (json : Json), table.rowLayout.Variant row json →
      Durable.read table json.toCompact = .ok row ∧
        ∀ text, Json.parse text = some json → Durable.read table text = .ok row) ∧
    ∀ part ∈ table.rowLayout.records, ∀ (value : part.1) (json : Json), part.2.Variant value json →
      (Json.parse json.toCompact).bind part.2.decode = some value ∧
        ∀ text, Json.parse text = some json →
          (Json.parse text).bind part.2.decode = some value := by
  have hdefaults := table.assumesDefaults
  constructor
  · intro row json h
    refine ⟨?_, fun text htext => ?_⟩
    · rw [Durable.read, Layout.parse_compact_of_variant hdefaults h]
    · rw [Durable.read, htext, Option.bind_some, table.rowLayout.decode_of_variant hdefaults row h]
  · intro part hpart value json h
    have hinside := table.rowLayout.assumesDefaults_of_mem_records hdefaults part hpart
    refine ⟨Layout.parse_compact_of_variant hinside h, fun text htext => ?_⟩
    rw [htext, Option.bind_some, part.2.decode_of_variant hinside value h]

/-- A group without services, all of whose other fields hold their defaults. -/
def bareGroup : ServiceGroup :=
  { serviceGroupId := "", name := "front", policy := .sameCluster, specs := .single,
    services := [], labels := .empty }

/-- The group as it may have been written before it had ids, policies, counts and
labels, but a weight. -/
def bareGroupJson : Json :=
  .ofMembers [("name", .ofText "front"), ("weight", .number (.decimal "1.5")),
    ("services", .array [])]

theorem variant_bareGroupJson :
    (HasLayout.layout : Layout ServiceGroup).Variant bareGroup bareGroupJson := by
  let weight : Json.Decimal :=
    { negative := false, digits := ['1'], fraction := ['.', '5'], exponent := [],
      areDigits := ⟨List.cons_ne_nil _ _, List.forall_mem_singleton.mpr rfl⟩,
      unpadded := by decide,
      isFraction := .some ⟨List.cons_ne_nil _ _, List.forall_mem_singleton.mpr rfl⟩,
      isExponent := .none,
      notInteger := .inl (List.cons_ne_nil _ _) }
  refine ⟨[(some "name", .ofText "front"), (some "services", .array [])], _, rfl, ?_,
    .own _ (.foreign (by decide) (.decimal weight) (.own _ .nil))⟩
  -- id, name, policy, specs, services and labels
  exact Fields.variant_left_out rfl <| Fields.variant_given rfl <|
    Fields.variant_left_out (.inl rfl) <| Fields.variant_left_out (.inl rfl) <|
    Fields.variant_given ⟨_, rfl, .nil⟩ <| Fields.variant_left_out rfl rfl

/-- A descriptor with this group in it is read back, and so is the group alone. -/
theorem earlier_texts_read_back_of_bare_descriptor :
    Durable.read .descriptors (Json.ofMembers
        [("organization_id", .ofText "o1"), ("app_descriptor_id", .ofText "d1"), ("tier", .null),
          ("name", .ofText "shop"), ("groups", .array [bareGroupJson])]).toCompact =
      .ok { organizationId := "o1", descriptorId := "d1", name := "shop",
            configurationOptions := .empty, environmentVariables := .empty, labels := .empty,
            rules := [], groups := [bareGroup], created := 0 } ∧
    (Json.parse bareGroupJson.toCompact).bind (HasLayout.layout : Layout ServiceGroup).decode =
      some bareGroup := by
  obtain ⟨hrows, hparts⟩ := earlier_texts_read_back .descriptors
  refine ⟨(hrows _ _ ?_).1, ?_⟩
  · refine ⟨[(some "organization_id", .ofText "o1"), (some "app_descriptor_id", .ofText "d1"),
      (some "name", .ofText "shop"), (some "groups", .array [bareGroupJson])], _, rfl, ?_,
      .own _ (.own _ (.foreign (by decide) .null (.own _ (.own _ .nil))))⟩
    -- the two ids and the name, three maps and the rules, the groups, and the date
    exact Fields.variant_given rfl <| Fields.variant_given rfl <| Fields.variant_given rfl <|
      Fields.variant_left_out rfl <| Fields.variant_left_out rfl <|
      Fields.variant_left_out rfl <| Fields.variant_left_out rfl <|
      Fields.variant_given ⟨_, rfl, .cons variant_bareGroupJson .nil⟩ <|
      Fields.variant_left_out rfl rfl
  · exact (hparts ⟨ServiceGroup, HasLayout.layout⟩ (.tail _ (.tail _ (.head _))) bareGroup
      bareGroupJson variant_bareGroupJson).1

end TenantRegistry
