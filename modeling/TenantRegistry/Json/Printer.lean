/-
TenantRegistry/Json/Printer.lean

Writing JSON.

Two layouts of one value: `compact`, without blanks, for stored records, and
`pretty`, one member or item a line under an indent of two blanks, for what
an operator reads.  Empty arrays and objects are `[]` and `{}` in both.

Text is written as it is but for three cases: a quotation mark, a backslash,
and the control characters below U+0020.  Five of these have a letter
(`\b \t \n \f \r`), the others are written `\u00xx` with lower-case digits.

The printers work on lists of characters; `toCompact` and `toPretty` give the
strings.
-/
import TenantRegistry.Json.Value

namespace TenantRegistry

namespace Json

/-! ### Strings and numbers -/

/-- The lower-case hexadecimal digit of a number below sixteen. -/
def hexDigit (n : Nat) : Char :=
  if n < 10 then Char.ofNat (48 + n) else Char.ofNat (87 + n)

/-- A character inside a written string. -/
def escape (c : Char) : List Char :=
  if c = '"' then ['\\', '"']
  else if c = '\\' then ['\\', '\\']
  else if c = '\x08' then ['\\', 'b']
  else if c = '\t' then ['\\', 't']
  else if c = '\n' then ['\\', 'n']
  else if c = '\x0c' then ['\\', 'f']
  else if c = '\r' then ['\\', 'r']
  else if c.toNat < 32 then ['\\', 'u', '0', '0', hexDigit (c.toNat / 16), hexDigit (c.toNat % 16)]
  else [c]

/-- A written string.  One that cannot be read is written as a string that
cannot be read. -/
def quoted : Option String → List Char
  | some text => '"' :: text.toList.flatMap escape ++ ['"']
  | none => ['"', '\\', 'u', 'd', '8', '0', '0', '"']

/-- An integer in decimal digits, with a minus sign if it is negative. -/
def decimalDigits : Int → List Char
  | .ofNat n => Nat.toDigits 10 n
  | .negSucc n => '-' :: Nat.toDigits 10 (n + 1)

/-- A written number. -/
def Number.chars : Number → List Char
  | .integer value => decimalDigits value
  | .decimal text => text.toList

/-- `true` or `false`. -/
def booleanChars (value : Bool) : List Char :=
  if value then ['t', 'r', 'u', 'e'] else ['f', 'a', 'l', 's', 'e']

/-! ### Compact layout -/

mutual

/-- A value without blanks. -/
def compact : Json → List Char
  | .null => ['n', 'u', 'l', 'l']
  | .boolean value => booleanChars value
  | .number value => value.chars
  | .string text => quoted text
  | .array items => '[' :: (compactItems items ++ [']'])
  | .object members => '{' :: (compactMembers members ++ ['}'])

/-- Items with commas between them. -/
def compactItems : List Json → List Char
  | [] => []
  | [item] => compact item
  | item :: next :: rest => compact item ++ ',' :: compactItems (next :: rest)

/-- Members with commas between them. -/
def compactMembers : List (Option String × Json) → List Char
  | [] => []
  | [(name, value)] => quoted name ++ ':' :: compact value
  | (name, value) :: next :: rest =>
    quoted name ++ ':' :: (compact value ++ ',' :: compactMembers (next :: rest))

end

/-! ### Pretty layout -/

/-- A line break and the indent of the line after it. -/
def newline (depth : Nat) : List Char := '\n' :: List.replicate (2 * depth) ' '

mutual

/-- A value whose items and members stand one a line, `depth` levels in. -/
def pretty (depth : Nat) : Json → List Char
  | .null => ['n', 'u', 'l', 'l']
  | .boolean value => booleanChars value
  | .number value => value.chars
  | .string text => quoted text
  | .array [] => ['[', ']']
  | .array (item :: items) => '[' :: (prettyItems (depth + 1) (item :: items) ++ newline depth ++ [']'])
  | .object [] => ['{', '}']
  | .object (member :: members) =>
    '{' :: (prettyMembers (depth + 1) (member :: members) ++ newline depth ++ ['}'])

/-- Items, each on a line of its own. -/
def prettyItems (depth : Nat) : List Json → List Char
  | [] => []
  | [item] => newline depth ++ pretty depth item
  | item :: next :: rest =>
    newline depth ++ pretty depth item ++ ',' :: prettyItems depth (next :: rest)

/-- Members, each on a line of its own. -/
def prettyMembers (depth : Nat) : List (Option String × Json) → List Char
  | [] => []
  | [(name, value)] => newline depth ++ quoted name ++ ':' :: ' ' :: pretty depth value
  | (name, value) :: next :: rest =>
    newline depth ++ quoted name ++ ':' :: ' ' ::
      (pretty depth value ++ ',' :: prettyMembers depth (next :: rest))

end

/-- The text of a value without blanks. -/
def toCompact (json : Json) : String := String.ofList json.compact

/-- The text of a value over several lines. -/
def toPretty (json : Json) : String := String.ofList (json.pretty 0)

end Json

end TenantRegistry
