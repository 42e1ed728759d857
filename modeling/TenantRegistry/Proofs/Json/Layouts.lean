/-
TenantRegistry/Proofs/Json/Layouts.lean

Every layout reads what it writes.

A record is read member by member, by name, from all members of its object.
The evidence that no two fields share a name is what makes this work: under
the name of a field stands the value of that field and nothing else.  An
optional field would lose a value that is read from `null`; no layout reads one
(`Layout.decode_null`).

Main results: `Layout.decode_encode`, and with the reader of texts
`Layout.parse_compact` and `Layout.parse_pretty`: a value that was written, in
either layout of the printer, is read back as it was.
-/
import TenantRegistry.Json.Layout
import TenantRegistry.Proofs.Json.Reading
import TenantRegistry.Proofs.Maps

namespace TenantRegistry

/-! ### Numbers -/

theorem count32?_toNat (value : UInt32) : count32? value.toNat = some value := by
  have hlt := value.toNat_lt
  rw [count32?, if_pos ⟨by omega, by omega⟩]
  simp

theorem count64?_toNat (value : UInt64) : count64? value.toNat = some value := by
  have hlt := value.toNat_lt
  rw [count64?, if_pos ⟨by omega, by omega⟩]
  simp

theorem signed64?_toInt (value : Int64) : signed64? value.toInt = some value := by
  have hlow := value.le_toInt
  have hhigh := value.toInt_lt
  rw [signed64?, if_pos ⟨by omega, by omega⟩, Int64.ofInt_toInt]

/-! ### Text under names -/

theorem labelsOfMembers_map (entries : List (String × String)) (map : OrderedMap String) :
    labelsOfMembers (entries.map fun entry => (some entry.1, .string (some entry.2))) map =
      some (entries.foldl (fun map entry => map.insert entry.1 entry.2) map) := by
  induction entries generalizing map with
  | nil => rfl
  | cons entry rest ih => exact ih _

theorem labelsOfJson_encode (map : OrderedMap String) :
    labelsOfJson (Layout.labels.encode map) = some map := by
  rw [Layout.encode, labelsOfJson, labelsOfMembers_map]
  exact congrArg some (OrderedMap.ofList_toList map)

/-! ### Members under a name -/

theorem givenUnder_cons (name : String) (member : Option String × Json)
    (members : List (Option String × Json)) :
    givenUnder name (member :: members) =
      if member.1 = some name then member.2 :: givenUnder name members
      else givenUnder name members := by
  rw [givenUnder, List.filter_cons]
  split
  · next h => rw [if_pos (by simpa using h)]; rfl
  · next h => rw [if_neg (by simpa using h)]; rfl

/-- Members that agree with others under a name and more, agree without their
first member under the rest. -/
theorem agree_of_cons {name : String} {names : List String} {value : Json}
    {members own : List (Option String × Json)} (hfresh : name ∉ names)
    (h : ∀ other ∈ name :: names,
      givenUnder other members = givenUnder other ((some name, value) :: own)) :
    ∀ other ∈ names, givenUnder other members = givenUnder other own := by
  intro other hmem
  rw [h other (List.mem_cons_of_mem _ hmem), givenUnder_cons, if_neg]
  rintro ⟨⟩
  exact hfresh hmem

/-- Every member has one of the names. -/
def Named (names : List String) (members : List (Option String × Json)) : Prop :=
  ∀ member ∈ members, ∃ name ∈ names, member.1 = some name

namespace Named

variable {names : List String} {members : List (Option String × Json)}

theorem nil : Named names [] := fun _ hmem => absurd hmem List.not_mem_nil

/-- Also of more names. -/
theorem weaken (h : Named names members) (name : String) : Named (name :: names) members := by
  intro member hmem
  obtain ⟨own, hown, heq⟩ := h member hmem
  exact ⟨own, List.mem_cons_of_mem name hown, heq⟩

theorem cons (h : Named names members) (name : String) (json : Json) :
    Named (name :: names) ((some name, json) :: members) :=
  List.forall_mem_cons.mpr ⟨⟨name, List.mem_cons_self, rfl⟩, h.weaken name⟩

theorem allNamed (h : Named names members) : TenantRegistry.allNamed members = true := by
  refine List.all_eq_true.mpr fun member hmem => ?_
  obtain ⟨name, -, heq⟩ := h member hmem
  rw [heq, Option.isSome_some]

/-- Under another name stands nothing. -/
theorem givenUnder_eq_nil (h : Named names members) {name : String} (hfresh : name ∉ names) :
    givenUnder name members = [] := by
  rw [givenUnder, List.map_eq_nil_iff, List.filter_eq_nil_iff]
  intro member hmem heq
  obtain ⟨own, hown, hname⟩ := h member hmem
  rw [hname, decide_eq_true_eq, Option.some_inj] at heq
  exact hfresh (heq ▸ hown)

end Named

/-- The members of a record have the names of its fields. -/
theorem Fields.named_encode :
    {names : List String} → {β : Type} → (fields : Fields names β) → (tuple : β) →
      Named names (fields.encode tuple)
  | _, _, .nil, _ => .nil
  | _, _, .field name _ _ rest, tuple => (rest.named_encode tuple.2).cons name _
  | _, _, .optional name _ _ rest, tuple => (rest.named_encode tuple.2).cons name _

/-! ### Reading what was written -/

/-- No value stands in JSON as `null`. -/
theorem Layout.decode_null {α : Type} (layout : Layout α) : layout.decode .null = none := by
  cases layout <;> rfl

/-- An optional value is read where a value is. -/
theorem readOptional_of_decode {α : Type} {layout : Layout α} {value : α} {json : Json}
    (h : layout.decode json = some value) :
    readOptional layout.decode json = some (some value) := by
  rw [readOptional, h, Option.map_some]
  rintro rfl
  rw [layout.decode_null] at h
  exact absurd h (by simp)

/-- An optional value is read back if its layout reads back what it writes. -/
theorem readOptional_encode {α : Type} {layout : Layout α}
    (h : ∀ value, layout.decode (layout.encode value) = some value) (value : Option α) :
    readOptional layout.decode ((value.map layout.encode).getD .null) = some value := by
  cases value with
  | none => rfl
  | some value => exact readOptional_of_decode (h value)

theorem mapM_decode_of_forall₂ {α : Type} {layout : Layout α} {values : List α} {items : List Json}
    (h : List.Forall₂ (fun value item => layout.decode item = some value) values items) :
    items.mapM layout.decode = some values := by
  induction h with
  | nil => rfl
  | cons hhead _ ih => simp [hhead, ih]

mutual

/-- **A value is read back from what it was written as.** -/
theorem Layout.decode_encode :
    {α : Type} → (layout : Layout α) → (value : α) →
      layout.decode (layout.encode value) = some value
  | _, .text, _ => rfl
  | _, .flag, _ => rfl
  | _, .count32, value => by
    rw [Layout.encode, Layout.decode, Json.ofInt, Json.integer?, Option.bind_some, count32?_toNat]
  | _, .count64, value => by
    rw [Layout.encode, Layout.decode, Json.ofInt, Json.integer?, Option.bind_some, count64?_toNat]
  | _, .signed64, value => by
    rw [Layout.encode, Layout.decode, Json.ofInt, Json.integer?, Option.bind_some, signed64?_toInt]
  | _, .choice _ _ listed, value => listed value
  | _, .list item, values => by
    rw [Layout.encode, Layout.decode]
    refine mapM_decode_of_forall₂ (List.forall₂_map_right_iff.mpr (List.forall₂_same.mpr ?_))
    exact fun value _ => item.decode_encode value
  | _, .labels, map => labelsOfJson_encode map
  | _, .record fields split join join_split distinct, value => by
    have hread := fields.decodeMembers_encode (split value) distinct fun _ _ => rfl
    rw [Layout.encode, Layout.decode]
    simp only [(fields.named_encode (split value)).allNamed, if_true, hread, Option.map_some,
      join_split]

/-- A record is read back from any members that agree with its own under the
names of its fields. -/
theorem Fields.decodeMembers_encode :
    {names : List String} → {β : Type} → (fields : Fields names β) → (tuple : β) →
      names.Nodup → {members : List (Option String × Json)} →
      (∀ name ∈ names, givenUnder name members = givenUnder name (fields.encode tuple)) →
      fields.decodeMembers members = some tuple
  | _, _, .nil, _, _, _, _ => rfl
  | _, _, .field name _ layout rest, tuple, distinct, members, h => by
    obtain ⟨hfresh, hrest⟩ := List.nodup_cons.mp distinct
    -- under the name of a field stands the value of this field alone
    have hown : givenUnder name members = [layout.encode tuple.1] := by
      rw [h name List.mem_cons_self, Fields.encode, givenUnder_cons, if_pos rfl,
        (rest.named_encode tuple.2).givenUnder_eq_nil hfresh]
    have hread := rest.decodeMembers_encode tuple.2 hrest (agree_of_cons hfresh h)
    rw [Fields.decodeMembers, hown]
    simp only [layout.decode_encode, hread, Option.bind_some, Option.map_some]
  | _, _, .optional name _ layout rest, tuple, distinct, members, h => by
    obtain ⟨hfresh, hrest⟩ := List.nodup_cons.mp distinct
    -- the same; a missing value stands there as `null`
    have hown : givenUnder name members = [(tuple.1.map layout.encode).getD .null] := by
      rw [h name List.mem_cons_self, Fields.encode, givenUnder_cons, if_pos rfl,
        (rest.named_encode tuple.2).givenUnder_eq_nil hfresh]
    have hread := rest.decodeMembers_encode tuple.2 hrest (agree_of_cons hfresh h)
    rw [Fields.decodeMembers, hown]
    simp only [readOptional_encode layout.decode_encode, hread, Option.bind_some, Option.map_some]

end

/-! ### From text to value -/

mutual

/-- What a layout writes can be printed. -/
theorem Layout.writable_encode :
    {α : Type} → (layout : Layout α) → (value : α) → (layout.encode value).Writable
  | _, .text, _ => .string _
  | _, .flag, _ => .boolean _
  | _, .count32, _ => .integer _
  | _, .count64, _ => .integer _
  | _, .signed64, _ => .integer _
  | _, .choice _ _ _, _ => .string _
  | _, .list item, values => by
    refine .array fun json hmem => ?_
    obtain ⟨value, -, rfl⟩ := List.mem_map.mp hmem
    exact item.writable_encode value
  | _, .labels, map => by
    refine .object fun member hmem => ?_
    obtain ⟨entry, -, rfl⟩ := List.mem_map.mp hmem
    exact .string _
  | _, .record fields split _ _ _, value => .object (fields.writable_encode (split value))

theorem Fields.writable_encode :
    {names : List String} → {β : Type} → (fields : Fields names β) → (tuple : β) →
      ∀ member ∈ fields.encode tuple, member.2.Writable
  | _, _, .nil, _, _, hmem => absurd hmem List.not_mem_nil
  | _, _, .field _ _ layout rest, tuple, member, hmem => by
    rcases List.mem_cons.mp hmem with rfl | hmem
    · exact layout.writable_encode tuple.1
    · exact rest.writable_encode tuple.2 member hmem
  | _, _, .optional _ _ layout rest, tuple, member, hmem => by
    rcases List.mem_cons.mp hmem with rfl | hmem
    · rcases tuple.1 with - | value
      · exact .null
      · exact layout.writable_encode value
    · exact rest.writable_encode tuple.2 member hmem

end

/-- **A value is read back from the compact text that it was written as.** -/
theorem Layout.parse_compact {α : Type} (layout : Layout α) (value : α) :
    (Json.parse (layout.encode value).toCompact).bind layout.decode = some value := by
  rw [Json.parse_toCompact (layout.writable_encode value), Option.bind_some, layout.decode_encode]

/-- **A value is read back from the lines that it was written as**, also with
blanks after them. -/
theorem Layout.parse_pretty {α : Type} (layout : Layout α) (value : α) {after : String}
    (hafter : Json.Blanks after.toList) :
    (Json.parse ((layout.encode value).toPretty ++ after)).bind layout.decode = some value := by
  rw [Json.parse_toPretty (layout.writable_encode value) hafter, Option.bind_some,
    layout.decode_encode]

end TenantRegistry
