/-
TenantRegistry/Toml/Value.lean

TOML values, and the tables of a document.

A table remembers how it came to be, because that decides what may still be
said about it: a table with a header of its own cannot have another, one that
was only passed on the way to another header can, and an inline table is
complete as it stands.
-/
namespace TenantRegistry

namespace Toml

/-- How a table came to be. -/
inductive Origin where
  /-- It has a header. -/
  | header
  /-- It lies on the path of a header. -/
  | passed
  /-- It lies on the path of a dotted key. -/
  | dotted
  /-- It stands between braces. -/
  | inline
  deriving DecidableEq, Repr

/-- A value or a table. -/
inductive Value where
  | text (value : String)
  | integer (value : Int)
  /-- A number with a fraction or an exponent, or one of the special numbers. -/
  | decimal (token : String)
  | boolean (value : Bool)
  /-- A date, a time of day, or both. -/
  | moment (token : String)
  | list (items : List Value)
  | table (origin : Origin) (members : List (String × Value))
  /-- The tables of a repeated header. -/
  | tables (elements : List (List (String × Value)))
  deriving Inhabited

/-- The members of a table, in the order in which they were made. -/
abbrev Members : Type := List (String × Value)

/-- A line of a document that says something. -/
inductive Line where
  /-- The header of a table, by its path. -/
  | header (path : List String)
  /-- A repeated header: one more table of a list of tables. -/
  | element (path : List String)
  /-- A value under a key, which may be dotted. -/
  | entry (path : List String) (value : Value)

end Toml

end TenantRegistry
