/-
TenantRegistry/Json/Value.lean

JSON values as they stand in a text.

The type keeps two things that most JSON types forget, because the registry
answers differently for them:

* whether a number is written as an integer.  A field that holds a count
  takes `3` and refuses `3.0`, `3e0` and `-0`;
* whether a string can be read.  The escapes of a string may name one half
  of a surrogate pair alone.  Such a string can be skipped, in a member that
  nobody asks for, but it cannot be read: it stands as `none`.

Members keep their order and their repetitions.
-/
namespace TenantRegistry

namespace Json

/-- A number as written. -/
inductive Number where
  /-- An integer literal, `-0` excepted. -/
  | integer (value : Int)
  /-- Any other number, as its text. -/
  | decimal (text : String)
  deriving DecidableEq, Repr

end Json

/-- A JSON value.  A string, also one that names a member, is `none` if its
escapes leave half of a surrogate pair alone. -/
inductive Json where
  | null
  | boolean (value : Bool)
  | number (value : Json.Number)
  | string (text : Option String)
  | array (items : List Json)
  | object (members : List (Option String × Json))
  deriving Inhabited

namespace Json

/-- The value of an integer literal. -/
def integer? : Json → Option Int
  | .number (.integer value) => some value
  | _ => none

/-- The text of a readable string. -/
def text? : Json → Option String
  | .string text => text
  | _ => none

/-- The value of `true` or `false`. -/
def boolean? : Json → Option Bool
  | .boolean value => some value
  | _ => none

/-- The items of an array. -/
def items? : Json → Option (List Json)
  | .array items => some items
  | _ => none

/-- The name that a value picks out of an enumeration: a string, or an object
whose only member has that name and the value `null`. -/
def chosen? : Json → Option String
  | .string text => text
  | .object [(name, .null)] => name
  | _ => none

/-- The value of the first member of that name. -/
def member? (name : String) : Json → Option Json
  | .object members => members.lookup (some name)
  | _ => none

/-- A string that can be read. -/
def ofText (text : String) : Json := .string (some text)

/-- An integer literal. -/
def ofInt (value : Int) : Json := .number (.integer value)

/-- An object of members with readable names. -/
def ofMembers (members : List (String × Json)) : Json :=
  .object (members.map fun member => (some member.1, member.2))

end Json

end TenantRegistry
