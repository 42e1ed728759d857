/-
TenantRegistry/Toml/Scalar.lean

Values without quotes and brackets: truth values, numbers, dates and times.

Such a value is one run of letters, digits and the marks `+ - _ . :`.  Only a
date with a time may have a blank in it, between the two.

* An integer fits into 64 bits with a sign.  In decimal it has no leading
  zero; after `0x`, `0o` or `0b` it has no sign.
* Underscores stand between digits, one at a time.
* A decimal number has a fraction or an exponent.  One that rounds to infinity
  is refused, unless it is negative.
* A date is a day of the calendar.  A time has seconds, of which there may be
  60, and may have a fraction of a second; a date with a time may have an
  offset.
-/
import TenantRegistry.Toml.Text
import TenantRegistry.Toml.Value

namespace TenantRegistry

namespace Toml

/-! ### Digits -/

/-- Digits with single underscores between them; the digits alone. -/
def ungrouped (isDigit : Char → Bool) : List Char → Option (List Char)
  | [] => none
  | [c] => if isDigit c then some [c] else none
  | c :: '_' :: rest => if isDigit c then (ungrouped isDigit rest).map (c :: ·) else none
  | c :: rest => if isDigit c then (ungrouped isDigit rest).map (c :: ·) else none

/-- The number that digits denote in a base. -/
def numberIn (base : Nat) (digits : List Char) : Nat :=
  digits.foldl (fun value c => base * value + (digitValue? c).getD 0) 0

/-- Whether a character is a digit of a base. -/
def isDigitIn (base : Nat) (c : Char) : Bool := (digitValue? c).any (· < base)

/-- Digits of a base with underscores between them; their number. -/
def groupedNumber? (base : Nat) (cs : List Char) : Option Nat :=
  (ungrouped (isDigitIn base) cs).map (numberIn base)

/-- Whether a sign is a minus, and what follows the sign. -/
def splitSign : List Char → Bool × List Char
  | '+' :: rest => (false, rest)
  | '-' :: rest => (true, rest)
  | rest => (false, rest)

/-- Decimal digits with underscores between them and no leading zero. -/
def plainDigits? (cs : List Char) : Option (List Char) :=
  (ungrouped Char.isDigit cs).filter fun digits => digits.head? ≠ some '0' || digits.length = 1

/-! ### Integers -/

/-- An integer of 64 bits with a sign. -/
def signed64Value? (value : Int) : Option Value :=
  if -9223372036854775808 ≤ value ∧ value < 9223372036854775808 then some (.integer value) else none

/-- An integer. -/
def integer? (token : List Char) : Option Value :=
  match token with
  | '0' :: 'x' :: digits => (groupedNumber? 16 digits).bind fun n => signed64Value? n
  | '0' :: 'o' :: digits => (groupedNumber? 8 digits).bind fun n => signed64Value? n
  | '0' :: 'b' :: digits => (groupedNumber? 2 digits).bind fun n => signed64Value? n
  | token =>
    let (negative, body) := splitSign token
    (plainDigits? body).bind fun digits =>
      let value : Int := numberIn 10 digits
      signed64Value? (if negative then -value else value)

/-! ### Decimal numbers -/

/-- The least number that rounds to infinity: half a unit above the largest
number of 53 bits and exponent 971. -/
def infinityBound : Nat := Nat.pow 2 1024 - Nat.pow 2 970

/-- Whether `digits`, read as an integer and moved by `exponent` decimal places,
rounds to infinity. -/
def roundsToInfinity (digits : List Char) (exponent : Int) : Bool :=
  let significant := digits.dropWhile (· = '0')
  let mantissa := numberIn 10 significant
  let magnitude : Int := significant.length + exponent
  if significant.isEmpty || magnitude ≤ 300 then false
  else if 320 ≤ magnitude then true
  else if 0 ≤ exponent then decide (infinityBound ≤ mantissa * Nat.pow 10 exponent.toNat)
  else decide (infinityBound * Nat.pow 10 (-exponent).toNat ≤ mantissa)

/-- A digit or an underscore. -/
def isGrouped (c : Char) : Bool := c.isDigit || c = '_'

/-- An exponent: its value. -/
def exponent? : List Char → Option Int
  | [] => none
  | e :: rest =>
    if e = 'e' ∨ e = 'E' then
      let (negative, body) := splitSign rest
      (groupedNumber? 10 body).map fun n => if negative then -(n : Int) else n
    else none

/-- A decimal number. -/
def decimal? (token : List Char) : Option Value := do
  let (negative, body) := splitSign token
  if body = ['i', 'n', 'f'] ∨ body = ['n', 'a', 'n'] then return .decimal (String.ofList token)
  let whole ← plainDigits? (body.takeWhile isGrouped)
  let rest := body.dropWhile isGrouped
  let (fraction, rest) ← match rest with
    | '.' :: rest =>
      (ungrouped Char.isDigit (rest.takeWhile isGrouped)).map (·, rest.dropWhile isGrouped)
    | rest => some ([], rest)
  let exponent ← if rest.isEmpty then some 0 else exponent? rest
  if fraction.isEmpty ∧ rest.isEmpty then none
  else if !negative && roundsToInfinity (whole ++ fraction) (exponent - fraction.length) then none
  else return .decimal (String.ofList token)

/-! ### Dates and times -/

/-- The number of two digits, if it is in a range. -/
def twoDigits? (a b : Char) (least most : Nat) : Option Nat :=
  if a.isDigit ∧ b.isDigit ∧ least ≤ numberIn 10 [a, b] ∧ numberIn 10 [a, b] ≤ most then
    some (numberIn 10 [a, b])
  else none

/-- The number of days of a month. -/
def daysOf (year month : Nat) : Nat :=
  let leap := year % 4 = 0 ∧ (year % 100 ≠ 0 ∨ year % 400 = 0)
  if month = 2 then if leap then 29 else 28
  else if month = 4 ∨ month = 6 ∨ month = 9 ∨ month = 11 then 30 else 31

/-- The characters after a date. -/
def afterDate? : List Char → Option (List Char)
  | y₁ :: y₂ :: y₃ :: y₄ :: '-' :: m₁ :: m₂ :: '-' :: d₁ :: d₂ :: rest => do
    let year ← if [y₁, y₂, y₃, y₄].all Char.isDigit then some (numberIn 10 [y₁, y₂, y₃, y₄])
      else none
    let month ← twoDigits? m₁ m₂ 1 12
    let _ ← twoDigits? d₁ d₂ 1 (daysOf year month)
    some rest
  | _ => none

/-- The characters after a fraction of a second, if there is one. -/
def afterSecondFraction : List Char → List Char
  | '.' :: d :: rest => if d.isDigit then rest.dropWhile Char.isDigit else '.' :: d :: rest
  | rest => rest

/-- The characters after a time of day. -/
def afterTime? : List Char → Option (List Char)
  | h₁ :: h₂ :: ':' :: m₁ :: m₂ :: ':' :: s₁ :: s₂ :: rest => do
    let _ ← twoDigits? h₁ h₂ 0 23
    let _ ← twoDigits? m₁ m₂ 0 59
    let _ ← twoDigits? s₁ s₂ 0 60
    some (afterSecondFraction rest)
  | _ => none

/-- Whether characters are an offset, or nothing. -/
def isOffset : List Char → Bool
  | [] => true
  | ['Z'] => true
  | ['z'] => true
  | [sign, h₁, h₂, ':', m₁, m₂] =>
    (sign = '+' || sign = '-') && (twoDigits? h₁ h₂ 0 23).isSome && (twoDigits? m₁ m₂ 0 59).isSome
  | _ => false

/-- Whether characters are a time of day, with an offset or without. -/
def isOffsetTime (cs : List Char) : Bool := (afterTime? cs).any isOffset

/-- A date, a time, or a date and a time with a `T` between them. -/
def moment? (token : List Char) : Option Value :=
  let valid : Bool :=
    match afterDate? token with
    | none => afterTime? token = some []
    | some [] => true
    | some (c :: rest) => (c = 'T' || c = 't') && isOffsetTime rest
  if valid then some (.moment (String.ofList token)) else none

/-! ### Reading -/

/-- A character of a value without quotes and brackets. -/
def isScalarChar (c : Char) : Bool :=
  c.isAlphanum || c = '+' || c = '-' || c = '_' || c = '.' || c = ':'

/-- The value of a run of characters. -/
def scalar? (token : List Char) : Option Value :=
  match token with
  | ['t', 'r', 'u', 'e'] => some (.boolean true)
  | ['f', 'a', 'l', 's', 'e'] => some (.boolean false)
  | token => (moment? token).or ((decimal? token).or (integer? token))

/-- Read a value without quotes and brackets. -/
def readScalar (cs : List Char) : Option (Value × List Char) :=
  let token := cs.takeWhile isScalarChar
  match cs.dropWhile isScalarChar with
  | ' ' :: d :: rest =>
    if afterDate? token = some [] ∧ d.isDigit then
      let time := (d :: rest).takeWhile isScalarChar
      if isOffsetTime time then
        some (.moment (String.ofList (token ++ ' ' :: time)), (d :: rest).dropWhile isScalarChar)
      else none
    else (scalar? token).map (·, ' ' :: d :: rest)
  | rest => (scalar? token).map (·, rest)

end Toml

end TenantRegistry
