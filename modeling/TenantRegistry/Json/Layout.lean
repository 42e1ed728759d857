/-
TenantRegistry/Json/Layout.lean

How a value stands in JSON, as data.

A `Layout α` describes the written form of the values of `α`.  The writer
and the reader are both recursions over it, so that a record type states
once which fields it has, and what a reader may assume of a field that is
left out.

* A record is written as an object with all its fields, in the order of the
  layout, or read from an array of its fields in that order.
* A field may have a value to assume where it is missing.  In an object any
  such field may be missing, in an array only the last ones.
* An optional field is written as `null` where it has no value, and is read
  as having none where it is `null` or missing.  In an array it may be
  missing only if its layout says so.
* Members that name no field are skipped; a field must not be given twice.
* An enumeration is written as its name.
* Text under names, such as labels, is an object in the order of the names;
  of two members with one name the later counts.

The names of a record's fields are the index of their layouts.  A record comes
with the evidence that no two fields share a name, and that joining its parts
undoes splitting it; an enumeration with the evidence that its names tell its
values apart.
-/
import TenantRegistry.Json.Value
import TenantRegistry.OrderedMap

namespace TenantRegistry

mutual

/-- The written form of the values of a type. -/
inductive Layout : Type → Type 1
  /-- A string. -/
  | text : Layout String
  /-- `true` or `false`. -/
  | flag : Layout Bool
  /-- A count of 32 bits. -/
  | count32 : Layout UInt32
  /-- A count of 64 bits. -/
  | count64 : Layout UInt64
  /-- A signed number of 64 bits. -/
  | signed64 : Layout Int64
  /-- One of finitely many values, by name. -/
  | choice {α : Type} (values : List α) (name : α → String)
      (listed : ∀ a, values.find? (fun value => name value = name a) = some a) : Layout α
  /-- An array. -/
  | list {α : Type} (item : Layout α) : Layout (List α)
  /-- Text under names. -/
  | labels : Layout (OrderedMap String)
  /-- A record, through the tuple of its fields. -/
  | record {α β : Type} {names : List String} (fields : Fields names β)
      (split : α → β) (join : β → α) (join_split : ∀ a, join (split a) = a)
      (distinct : names.Nodup := by decide) : Layout α

/-- The fields of a record: their names, and the type of the tuple they form. -/
inductive Fields : List String → Type → Type 1
  | nil : Fields [] Unit
  /-- A field that always has a value; `missing` is assumed where it is not given. -/
  | field {α β : Type} {names : List String} (name : String) (missing : Option α)
      (layout : Layout α) (rest : Fields names β) : Fields (name :: names) (α × β)
  /-- A field that may have no value; `trailing` if an array may end before it. -/
  | optional {α β : Type} {names : List String} (name : String) (trailing : Bool)
      (layout : Layout α) (rest : Fields names β) : Fields (name :: names) (Option α × β)

end

/-- A type with one written form. -/
class HasLayout (α : Type) where
  /-- The written form. -/
  layout : Layout α

/-! ### Writing -/

mutual

/-- A value as JSON. -/
def Layout.encode {α : Type} : Layout α → α → Json
  | .text, value => .string (some value)
  | .flag, value => .boolean value
  | .count32, value => Json.ofInt value.toNat
  | .count64, value => Json.ofInt value.toNat
  | .signed64, value => Json.ofInt value.toInt
  | .choice _ name _, value => .string (some (name value))
  | .list item, values => .array (values.map item.encode)
  | .labels, map => .object (map.toList.map fun entry => (some entry.1, .string (some entry.2)))
  | .record fields split _ _ _, value => .object (fields.encode (split value))

/-- The members of a record. -/
def Fields.encode {names : List String} {β : Type} :
    Fields names β → β → List (Option String × Json)
  | .nil, _ => []
  | .field name _ layout rest, tuple => (some name, layout.encode tuple.1) :: rest.encode tuple.2
  | .optional name _ layout rest, tuple =>
    (some name, (tuple.1.map layout.encode).getD .null) :: rest.encode tuple.2

end

/-! ### Reading -/

/-- An integer that a 32-bit count can hold. -/
def count32? (value : Int) : Option UInt32 :=
  if 0 ≤ value ∧ value < 4294967296 then some (UInt32.ofNat value.toNat) else none

/-- An integer that a 64-bit count can hold. -/
def count64? (value : Int) : Option UInt64 :=
  if 0 ≤ value ∧ value < 18446744073709551616 then some (UInt64.ofNat value.toNat) else none

/-- An integer that a signed number of 64 bits can hold. -/
def signed64? (value : Int) : Option Int64 :=
  if -9223372036854775808 ≤ value ∧ value < 9223372036854775808 then some (Int64.ofInt value) else none

/-- Text under names from the members of an object. -/
def labelsOfMembers : List (Option String × Json) → OrderedMap String → Option (OrderedMap String)
  | [], map => some map
  | (some name, .string (some value)) :: rest, map => labelsOfMembers rest (map.insert name value)
  | _ :: _, _ => none

/-- Text under names. -/
def labelsOfJson : Json → Option (OrderedMap String)
  | .object members => labelsOfMembers members .empty
  | _ => none

/-- The values given under a name. -/
def givenUnder (name : String) (members : List (Option String × Json)) : List Json :=
  (members.filter fun member => member.1 = some name).map (·.2)

/-- Whether every member can be told by its name. -/
def allNamed (members : List (Option String × Json)) : Bool :=
  members.all fun member => member.1.isSome

/-- A value that may be `null`. -/
def readOptional {α : Type} (read : Json → Option α) : Json → Option (Option α)
  | .null => some none
  | json => (read json).map some

mutual

/-- The value that JSON stands for, if it has the written form. -/
def Layout.decode {α : Type} : Layout α → Json → Option α
  | .text, json => json.text?
  | .flag, json => json.boolean?
  | .count32, json => json.integer?.bind count32?
  | .count64, json => json.integer?.bind count64?
  | .signed64, json => json.integer?.bind signed64?
  | .choice values name _, json =>
    json.chosen?.bind fun chosen => values.find? fun value => name value = chosen
  | .list item, json => json.items?.bind fun items => items.mapM item.decode
  | .labels, json => labelsOfJson json
  | .record fields _ join _ _, json =>
    match json with
    | .object members =>
      if allNamed members then (fields.decodeMembers members).map join else none
    | .array items => (fields.decodeItems items).map join
    | _ => none

/-- The fields of a record from the members of an object. -/
def Fields.decodeMembers {names : List String} {β : Type} :
    Fields names β → List (Option String × Json) → Option β
  | .nil, _ => some ()
  | .field name missing layout rest, members =>
    (match givenUnder name members with
      | [] => missing
      | [value] => layout.decode value
      | _ => none).bind fun head => (rest.decodeMembers members).map (head, ·)
  | .optional name _ layout rest, members =>
    (match givenUnder name members with
      | [] => some none
      | [value] => readOptional layout.decode value
      | _ => none).bind fun head => (rest.decodeMembers members).map (head, ·)

/-- The fields of a record from the items of an array. -/
def Fields.decodeItems {names : List String} {β : Type} : Fields names β → List Json → Option β
  | .nil, items => if items.isEmpty then some () else none
  | .field _ missing layout rest, items =>
    (match items.head? with
      | some item => layout.decode item
      | none => missing).bind fun head => (rest.decodeItems items.tail).map (head, ·)
  | .optional _ trailing layout rest, items =>
    (match items.head? with
      | some item => readOptional layout.decode item
      | none => if trailing then some none else none).bind fun head =>
        (rest.decodeItems items.tail).map (head, ·)

end

/-! ### Types with a layout -/

/-- A value as JSON, by the layout of its type. -/
def encode {α : Type} [HasLayout α] (value : α) : Json := HasLayout.layout.encode value

/-- The value that JSON stands for, by the layout of its type. -/
def decode {α : Type} [HasLayout α] (json : Json) : Option α := HasLayout.layout.decode json

instance : HasLayout String := ⟨.text⟩

instance : HasLayout Bool := ⟨.flag⟩

instance : HasLayout UInt32 := ⟨.count32⟩

instance : HasLayout UInt64 := ⟨.count64⟩

instance : HasLayout Int64 := ⟨.signed64⟩

instance {α : Type} [HasLayout α] : HasLayout (List α) := ⟨.list HasLayout.layout⟩

instance : HasLayout (OrderedMap String) := ⟨.labels⟩

namespace Fields

/-- A field that must be given. -/
def required {α β : Type} [HasLayout α] {names : List String} (name : String)
    (rest : Fields names β) : Fields (name :: names) (α × β) :=
  .field name none HasLayout.layout rest

/-- A field with a value to assume. -/
def defaulting {α β : Type} [HasLayout α] {names : List String} (name : String) (missing : α)
    (rest : Fields names β) : Fields (name :: names) (α × β) :=
  .field name (some missing) HasLayout.layout rest

/-- A field that may have no value, but stands in every array. -/
def option {α β : Type} [HasLayout α] {names : List String} (name : String)
    (rest : Fields names β) : Fields (name :: names) (Option α × β) :=
  .optional name false HasLayout.layout rest

/-- A field that may have no value, and before which an array may end. -/
def trailingOption {α β : Type} [HasLayout α] {names : List String} (name : String)
    (rest : Fields names β) : Fields (name :: names) (Option α × β) :=
  .optional name true HasLayout.layout rest

end Fields

end TenantRegistry
