/-
TenantRegistry/Toml/Text.lean

Text in TOML: four forms of quoting, and the choice among them.

A basic string stands between quotation marks and knows escapes; a literal
string stands between apostrophes and knows none.  Each has a form of several
lines, between three marks, in which one or two marks may stand for
themselves.  A line break right after the opening marks does not count, and a
line break is a line feed whether or not a carriage return comes before it.

`quote` writes a text in the plainest form that can hold it.
-/
namespace TenantRegistry

namespace Toml

/-! ### Characters -/

/-- Space or tab. -/
def isBlank (c : Char) : Bool := c = ' ' || c = '\t'

/-- A control character other than tab. -/
def isControl (c : Char) : Bool := (c.toNat < 32 && c ≠ '\t') || c.toNat = 127

/-- The value of a hexadecimal digit in either case. -/
def digitValue? (c : Char) : Option Nat :=
  if '0' ≤ c ∧ c ≤ '9' then some (c.toNat - 48)
  else if 'a' ≤ c ∧ c ≤ 'f' then some (c.toNat - 87)
  else if 'A' ≤ c ∧ c ≤ 'F' then some (c.toNat - 55)
  else none

/-- The character of a code in hexadecimal digits, if the code has one. -/
def codeChar? (digits : List Char) : Option Char := do
  let code ← digits.foldlM (fun value c => (digitValue? c).map (16 * value + ·)) 0
  if code.isValidChar then some (Char.ofNat code) else none

/-- The character named by one letter after a backslash. -/
def letterChar? : Char → Option Char
  | 'b' => some '\x08'
  | 't' => some '\t'
  | 'n' => some '\n'
  | 'f' => some '\x0c'
  | 'r' => some '\r'
  | '"' => some '"'
  | '\\' => some '\\'
  | _ => none

/-! ### Reading -/

/-- What was read, with one more character in front. -/
def withChar (c : Char) (read : List Char × List Char) : List Char × List Char :=
  (c :: read.1, read.2)

/-- Read a basic string of one line after its opening mark. -/
def readBasic : List Char → Option (List Char × List Char)
  | [] => none
  | '"' :: rest => some ([], rest)
  | '\\' :: 'u' :: a :: b :: c :: d :: rest =>
    (codeChar? [a, b, c, d]).bind fun x => (readBasic rest).map (withChar x)
  | '\\' :: 'U' :: a :: b :: c :: d :: e :: f :: g :: h :: rest =>
    (codeChar? [a, b, c, d, e, f, g, h]).bind fun x => (readBasic rest).map (withChar x)
  | '\\' :: letter :: rest => (letterChar? letter).bind fun x => (readBasic rest).map (withChar x)
  | c :: rest => if isControl c ∨ c = '\\' then none else (readBasic rest).map (withChar c)

/-- Read a literal string of one line after its opening mark. -/
def readLiteral : List Char → Option (List Char × List Char)
  | [] => none
  | '\'' :: rest => some ([], rest)
  | c :: rest => if isControl c then none else (readLiteral rest).map (withChar c)

/-- Whether blanks and then the end of a line come next. -/
def endsLine (cs : List Char) : Bool :=
  match cs.dropWhile isBlank with
  | '\n' :: _ => true
  | '\r' :: '\n' :: _ => true
  | _ => false

/-- Read a basic string of several lines after its opening marks.  While
`trimming`, blanks and line breaks are passed over: that is what a backslash at
the end of a line asks for. -/
def readBasicLines (trimming : Bool) : List Char → Option (List Char × List Char)
  | [] => none
  | '"' :: '"' :: '"' :: '"' :: '"' :: rest => some (['"', '"'], rest)
  | '"' :: '"' :: '"' :: '"' :: rest => some (['"'], rest)
  | '"' :: '"' :: '"' :: rest => some ([], rest)
  | '\\' :: 'u' :: a :: b :: c :: d :: rest =>
    (codeChar? [a, b, c, d]).bind fun x => (readBasicLines false rest).map (withChar x)
  | '\\' :: 'U' :: a :: b :: c :: d :: e :: f :: g :: h :: rest =>
    (codeChar? [a, b, c, d, e, f, g, h]).bind fun x =>
      (readBasicLines false rest).map (withChar x)
  | '\\' :: letter :: rest =>
    if endsLine (letter :: rest) then readBasicLines true (letter :: rest)
    else (letterChar? letter).bind fun x => (readBasicLines false rest).map (withChar x)
  | '\r' :: '\n' :: rest =>
    if trimming then readBasicLines true rest
    else (readBasicLines false rest).map (withChar '\n')
  | '\n' :: rest =>
    if trimming then readBasicLines true rest
    else (readBasicLines false rest).map (withChar '\n')
  | c :: rest =>
    if trimming && isBlank c then readBasicLines true rest
    else if isControl c ∨ c = '\\' then none
    else (readBasicLines false rest).map (withChar c)

/-- Read a literal string of several lines after its opening marks. -/
def readLiteralLines : List Char → Option (List Char × List Char)
  | [] => none
  | '\'' :: '\'' :: '\'' :: '\'' :: '\'' :: rest => some (['\'', '\''], rest)
  | '\'' :: '\'' :: '\'' :: '\'' :: rest => some (['\''], rest)
  | '\'' :: '\'' :: '\'' :: rest => some ([], rest)
  | '\r' :: '\n' :: rest => (readLiteralLines rest).map (withChar '\n')
  | '\n' :: rest => (readLiteralLines rest).map (withChar '\n')
  | c :: rest => if isControl c then none else (readLiteralLines rest).map (withChar c)

/-- The characters after a line break, if one comes next. -/
def skipBreak : List Char → List Char
  | '\n' :: rest => rest
  | '\r' :: '\n' :: rest => rest
  | rest => rest

/-- Read a string in any form. -/
def readText : List Char → Option (List Char × List Char)
  | '"' :: '"' :: '"' :: rest => readBasicLines false (skipBreak rest)
  | '"' :: rest => readBasic rest
  | '\'' :: '\'' :: '\'' :: rest => readLiteralLines (skipBreak rest)
  | '\'' :: rest => readLiteral rest
  | _ => none

/-! ### Writing -/

/-- The forms of quoting. -/
inductive Quoting where
  | basic
  | literal
  | basicLines
  | literalLines
  deriving DecidableEq, Repr

/-- The length of the longest run of a character, given the length of the run
that was just passed. -/
def longestRun (mark : Char) (run : Nat) : List Char → Nat
  | [] => run
  | c :: rest =>
    if c = mark then longestRun mark (run + 1) rest else max run (longestRun mark 0 rest)

/-- The plainest form that can hold a text. -/
def quotingOf (cs : List Char) : Quoting :=
  let controls := cs.any fun c => isControl c && c ≠ '\n'
  let backslashes := cs.contains '\\'
  let breaks := cs.contains '\n'
  let quotes := longestRun '"' 0 cs
  let apostrophes := longestRun '\'' 0 cs
  if !controls && !backslashes && !breaks && quotes = 0 then .basic
  else if !controls && !breaks && apostrophes = 0 then .literal
  else if !controls && !backslashes && quotes ≤ 2 then .basicLines
  else if !controls && apostrophes ≤ 2 then .literalLines
  else if breaks then .basicLines
  else .basic

/-- The upper-case hexadecimal digit of a number below sixteen. -/
def upperDigit (n : Nat) : Char :=
  if n < 10 then Char.ofNat (48 + n) else Char.ofNat (55 + n)

/-- A character of a basic string, a quotation mark aside. -/
def escapeChar (c : Char) : List Char :=
  if c = '\x08' then ['\\', 'b']
  else if c = '\t' then ['\\', 't']
  else if c = '\x0c' then ['\\', 'f']
  else if c = '\r' then ['\\', 'r']
  else if c = '\\' then ['\\', '\\']
  else if isControl c then
    ['\\', 'u', '0', '0', upperDigit (c.toNat / 16), upperDigit (c.toNat % 16)]
  else [c]

/-- The inside of a basic string of one line. -/
def basicChars (cs : List Char) : List Char :=
  cs.flatMap fun c => if c = '"' then ['\\', '"'] else escapeChar c

/-- The inside of a basic string of several lines, after `run` quotation marks
that stand for themselves.  The third in a row is escaped. -/
def basicLineChars (run : Nat) : List Char → List Char
  | [] => []
  | c :: rest =>
    if c = '"' then
      if run < 2 then c :: basicLineChars (run + 1) rest
      else '\\' :: '"' :: basicLineChars 0 rest
    else if c = '\n' then c :: basicLineChars 0 rest
    else escapeChar c ++ basicLineChars 0 rest

/-- What the opening marks of a form of several lines are followed by. -/
def leadingBreak (cs : List Char) : List Char := if cs.contains '\n' then ['\n'] else []

/-- A text in a form of quoting. -/
def quoteAs (cs : List Char) : Quoting → List Char
  | .basic => ['"'] ++ basicChars cs ++ ['"']
  | .literal => ['\''] ++ cs ++ ['\'']
  | .basicLines =>
    ['"', '"', '"'] ++ leadingBreak cs ++ basicLineChars 0 cs ++ ['"', '"', '"']
  | .literalLines =>
    ['\'', '\'', '\''] ++ leadingBreak cs ++ cs ++ ['\'', '\'', '\'']

/-- A text in the plainest form that can hold it. -/
def quote (text : String) : List Char := quoteAs text.toList (quotingOf text.toList)

end Toml

end TenantRegistry
