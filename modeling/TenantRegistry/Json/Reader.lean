/-
TenantRegistry/Json/Reader.lean

Reading JSON.

The reader takes the characters of a text and hands back a value with the
characters after it.  `Json.parse` reads a whole text: one value, with blanks
around it and nothing else.

* Blanks are space, tab, line feed and carriage return.
* A string may hold any character from U+0020 on but a quotation mark and a
  backslash.  An escape of four digits names one UTF-16 unit; two units that
  form a surrogate pair give one character; a half without its partner makes
  the string unreadable, which is no error here (see `Json`).
* A number has no leading zeros, and digits on both sides of its point.

Values nest, so the reader recurs on a bound for the number of steps.  Every
step passes at least one character, but for the step from an opening bracket
to its first item; twice the length of the text is bound enough.
-/
import TenantRegistry.Json.Value

namespace TenantRegistry

namespace Json

/-! ### Characters -/

/-- Space, tab, line feed or carriage return. -/
def isBlank (c : Char) : Bool := c = ' ' || c = '\t' || c = '\n' || c = '\r'

/-- The characters after leading blanks. -/
def skipBlanks (cs : List Char) : List Char := cs.dropWhile isBlank

/-- The value of a hexadecimal digit in either case. -/
def hexValue (c : Char) : Option Nat :=
  if '0' ≤ c ∧ c ≤ '9' then some (c.toNat - 48)
  else if 'a' ≤ c ∧ c ≤ 'f' then some (c.toNat - 87)
  else if 'A' ≤ c ∧ c ≤ 'F' then some (c.toNat - 55)
  else none

/-- The number that hexadecimal digits denote. -/
def hexNumber (digits : List Char) : Option Nat :=
  digits.foldlM (fun value c => (hexValue c).map (16 * value + ·)) 0

/-- The number that decimal digits denote. -/
def decimalNumber (digits : List Char) : Nat :=
  digits.foldl (fun value c => 10 * value + (c.toNat - 48)) 0

/-! ### Strings -/

/-- The character named by one letter after a backslash. -/
def escaped : Char → Option Char
  | '"' => some '"'
  | '\\' => some '\\'
  | '/' => some '/'
  | 'b' => some '\x08'
  | 'f' => some '\x0c'
  | 'n' => some '\n'
  | 'r' => some '\r'
  | 't' => some '\t'
  | _ => none

/-- What a string is written with: characters, and UTF-16 units given by four
hexadecimal digits. -/
inductive Piece where
  | char (c : Char)
  | unit (value : Nat)

/-- First half of a surrogate pair. -/
def isHighHalf (unit : Nat) : Bool := 0xD800 ≤ unit && unit < 0xDC00

/-- Second half of a surrogate pair. -/
def isLowHalf (unit : Nat) : Bool := 0xDC00 ≤ unit && unit < 0xE000

/-- The character of a surrogate pair. -/
def pairChar (high low : Nat) : Char :=
  Char.ofNat (0x10000 + 0x400 * (high - 0xD800) + (low - 0xDC00))

/-- Read the pieces of a string after its opening mark. -/
def readPieces : List Char → Option (List Piece × List Char)
  | [] => none
  | '"' :: rest => some ([], rest)
  | '\\' :: 'u' :: a :: b :: c :: d :: rest =>
    match hexNumber [a, b, c, d] with
    | none => none
    | some value => (readPieces rest).map fun read => (.unit value :: read.1, read.2)
  | '\\' :: letter :: rest =>
    match escaped letter with
    | none => none
    | some c => (readPieces rest).map fun read => (.char c :: read.1, read.2)
  | c :: rest =>
    -- control characters have to be escaped
    if c.toNat < 32 ∨ c = '\\' then none
    else (readPieces rest).map fun read => (.char c :: read.1, read.2)

/-- The characters that pieces stand for, unless half of a pair stands alone. -/
def joinPieces : List Piece → Option (List Char)
  | [] => some []
  | .char c :: rest => (joinPieces rest).map (c :: ·)
  | .unit high :: .unit low :: rest =>
    if isHighHalf high then
      if isLowHalf low then (joinPieces rest).map (pairChar high low :: ·) else none
    -- a unit that is no half stands alone, and the next may start a pair
    else if isLowHalf high then none
    else (joinPieces (.unit low :: rest)).map (Char.ofNat high :: ·)
  | .unit value :: rest =>
    if isHighHalf value || isLowHalf value then none
    else (joinPieces rest).map (Char.ofNat value :: ·)

/-- Read a string after its opening mark.  The first part of the answer is
`none` if the string is well formed but unreadable. -/
def readString (cs : List Char) : Option (Option String × List Char) :=
  (readPieces cs).map fun read => ((joinPieces read.1).map String.ofList, read.2)

/-! ### Numbers -/

/-- The digits after a point, if there is a point: what was passed, and the
rest.  A point without digits is refused. -/
def readFraction : List Char → Option (List Char × List Char)
  | '.' :: rest =>
    let digits := rest.takeWhile Char.isDigit
    if digits.isEmpty then none else some ('.' :: digits, rest.dropWhile Char.isDigit)
  | rest => some ([], rest)

/-- An exponent, if there is one: what was passed, and the rest.  An exponent
without digits is refused. -/
def readExponent : List Char → Option (List Char × List Char)
  | [] => some ([], [])
  | e :: rest =>
    if e = 'e' ∨ e = 'E' then
      -- at most one sign, and then digits
      let sign := rest.takeWhile (fun c => c = '+' || c = '-')
      let body := rest.dropWhile (fun c => c = '+' || c = '-')
      let digits := body.takeWhile Char.isDigit
      if digits.isEmpty ∨ 1 < sign.length then none
      else some (e :: sign ++ digits, body.dropWhile Char.isDigit)
    else some ([], e :: rest)

/-- Read a number without its sign. -/
def readMagnitude (negative : Bool) (cs : List Char) : Option (Number × List Char) :=
  let digits := cs.takeWhile Char.isDigit
  if digits.isEmpty ∨ (digits.head? = some '0' ∧ 1 < digits.length) then none
  else do
    let (fraction, rest) ← readFraction (cs.dropWhile Char.isDigit)
    let (exponent, rest) ← readExponent rest
    let value := decimalNumber digits
    -- minus zero is no integer
    let whole := fraction.isEmpty && exponent.isEmpty && !(negative && value == 0)
    let sign := if negative then ['-'] else []
    let number :=
      if whole then Number.integer (if negative then -(value : Int) else value)
      else Number.decimal (String.ofList (sign ++ digits ++ fraction ++ exponent))
    some (number, rest)

/-- Read a number. -/
def readNumber : List Char → Option (Number × List Char)
  | '-' :: rest => readMagnitude true rest
  | rest => readMagnitude false rest

/-! ### Values -/

mutual

/-- Read a value, in at most `steps` steps. -/
def readValue : Nat → List Char → Option (Json × List Char)
  | 0, _ => none
  | steps + 1, cs =>
    match skipBlanks cs with
    | 'n' :: 'u' :: 'l' :: 'l' :: rest => some (.null, rest)
    | 't' :: 'r' :: 'u' :: 'e' :: rest => some (.boolean true, rest)
    | 'f' :: 'a' :: 'l' :: 's' :: 'e' :: rest => some (.boolean false, rest)
    | '"' :: rest => (readString rest).map fun read => (.string read.1, read.2)
    | '[' :: rest =>
      match skipBlanks rest with
      | ']' :: rest => some (.array [], rest)
      | rest => (readItems steps rest).map fun read => (.array read.1, read.2)
    | '{' :: rest =>
      match skipBlanks rest with
      | '}' :: rest => some (.object [], rest)
      | rest => (readMembers steps rest).map fun read => (.object read.1, read.2)
    -- what starts no other value may be a number
    | rest => (readNumber rest).map fun read => (.number read.1, read.2)

/-- Read one or more items up to the closing bracket. -/
def readItems : Nat → List Char → Option (List Json × List Char)
  | 0, _ => none
  | steps + 1, cs =>
    match readValue steps cs with
    | none => none
    | some (item, rest) =>
      match skipBlanks rest with
      | ',' :: rest => (readItems steps rest).map fun read => (item :: read.1, read.2)
      | ']' :: rest => some ([item], rest)
      | _ => none

/-- Read one or more members up to the closing brace. -/
def readMembers : Nat → List Char → Option (List (Option String × Json) × List Char)
  | 0, _ => none
  | steps + 1, cs =>
    match skipBlanks cs with
    | '"' :: rest =>
      match readString rest with
      | none => none
      | some (name, rest) =>
        match skipBlanks rest with
        | ':' :: rest =>
          match readValue steps rest with
          | none => none
          | some (value, rest) =>
            let member := (name, value)
            match skipBlanks rest with
            | ',' :: rest => (readMembers steps rest).map fun read => (member :: read.1, read.2)
            | '}' :: rest => some ([member], rest)
            | _ => none
        | _ => none
    | _ => none

end

/-- The value that a text consists of, if it is JSON. -/
def parse (text : String) : Option Json :=
  let cs := text.toList
  match readValue (2 * cs.length + 2) cs with
  | some (json, rest) => if (skipBlanks rest).isEmpty then some json else none
  | none => none

end Json

end TenantRegistry
