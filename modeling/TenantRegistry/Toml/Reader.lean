/-
TenantRegistry/Toml/Reader.lean

Reading TOML.

A document is a list of lines.  A line says something, or is blank, and may
end with a comment.  Values nest in arrays and inline tables, fewer than
`maxDepth` deep, and a dotted key has fewer than `maxDepth` parts.  Line
breaks and comments may stand between the items of an array, but not between
the entries of an inline table.

A comment may hold any character but control characters; only a tab is allowed.
-/
import TenantRegistry.Toml.Document
import TenantRegistry.Toml.Scalar

namespace TenantRegistry

namespace Toml

/-- What the depth of values and the number of parts of a key stay below. -/
def maxDepth : Nat := 80

/-! ### Blanks and comments -/

/-- The characters after leading blanks. -/
def skipBlanks (cs : List Char) : List Char := cs.dropWhile isBlank

/-- The characters after a comment, if one comes next. -/
def skipComment : List Char → List Char
  | '#' :: rest => rest.dropWhile fun c => !isControl c
  | rest => rest

/-- The characters after blanks, comments and line breaks.  `inside` tells
whether a comment has begun. -/
def skipSpace (inside : Bool) : List Char → List Char
  | [] => []
  | '\n' :: rest => skipSpace false rest
  | '\r' :: '\n' :: rest => skipSpace false rest
  | c :: rest =>
    if inside then if isControl c then c :: rest else skipSpace true rest
    else if isBlank c then skipSpace false rest
    else if c = '#' then skipSpace true rest
    else c :: rest

/-- The characters after the end of a line: blanks, perhaps a comment, and a
line break or the end of the text. -/
def endLine (cs : List Char) : Option (List Char) :=
  match skipComment (skipBlanks cs) with
  | [] => some []
  | '\n' :: rest => some rest
  | '\r' :: '\n' :: rest => some rest
  | _ => none

/-! ### Keys -/

/-- A character of a key without quotes. -/
def isKeyChar (c : Char) : Bool := c.isAlphanum || c = '_' || c = '-'

/-- Read one part of a key. -/
def readKey : List Char → Option (String × List Char)
  | '"' :: rest => (readBasic rest).map fun read => (String.ofList read.1, read.2)
  | '\'' :: rest => (readLiteral rest).map fun read => (String.ofList read.1, read.2)
  | cs =>
    let name := cs.takeWhile isKeyChar
    if name.isEmpty then none else some (String.ofList name, cs.dropWhile isKeyChar)

/-- Read a dotted key of at most `parts` parts, with the blanks around it. -/
def readPath : Nat → List Char → Option (List String × List Char)
  | 0, _ => none
  | parts + 1, cs =>
    match readKey (skipBlanks cs) with
    | none => none
    | some (key, rest) =>
      match skipBlanks rest with
      | '.' :: rest => (readPath parts rest).map fun read => (key :: read.1, read.2)
      | rest => some ([key], rest)

/-! ### Values -/

mutual

/-- Read a value that may nest `depth` deep, in at most `steps` steps. -/
def readValue (depth : Nat) : Nat → List Char → Option (Value × List Char)
  | 0, _ => none
  | steps + 1, cs =>
    match cs with
    | '[' :: rest =>
      match depth with
      | 0 => none
      | depth + 1 =>
        match skipSpace false rest with
        | ']' :: rest => some (.list [], rest)
        | rest => (readItems depth steps rest).map fun read => (.list read.1, read.2)
    | '{' :: rest =>
      match depth with
      | 0 => none
      | depth + 1 =>
        match skipBlanks rest with
        | '}' :: rest => some (.table .inline [], rest)
        | rest => (readEntries depth steps [] rest).map fun read =>
          (.table .inline read.1, read.2)
    | '"' :: _ => (readText cs).map fun read => (.text (String.ofList read.1), read.2)
    | '\'' :: _ => (readText cs).map fun read => (.text (String.ofList read.1), read.2)
    | _ => readScalar cs

/-- Read one or more items of an array up to the closing bracket. -/
def readItems (depth : Nat) : Nat → List Char → Option (List Value × List Char)
  | 0, _ => none
  | steps + 1, cs =>
    match readValue depth steps cs with
    | none => none
    | some (item, rest) =>
      match skipSpace false rest with
      | ']' :: rest => some ([item], rest)
      | ',' :: rest =>
        match skipSpace false rest with
        | ']' :: rest => some ([item], rest)
        | rest => (readItems depth steps rest).map fun read => (item :: read.1, read.2)
      | _ => none

/-- Read one or more entries of an inline table up to the closing brace, and add
them to the members that it has. -/
def readEntries (depth : Nat) : Nat → Members → List Char → Option (Members × List Char)
  | 0, _, _ => none
  | steps + 1, members, cs =>
    match readPath (maxDepth - 1) cs with
    | some (path, '=' :: rest) =>
      match readValue depth steps (skipBlanks rest) with
      | none => none
      | some (value, rest) =>
        match putInline value path members with
        | none => none
        | some members =>
          match skipBlanks rest with
          | '}' :: rest => some (members, rest)
          | ',' :: rest => readEntries depth steps members rest
          | _ => none
    | _ => none

end

/-! ### Documents -/

/-- Read a line that says something, with its end. -/
def readLine (cs : List Char) : Option (Line × List Char) :=
  match cs with
  | '[' :: '[' :: rest =>
    match readPath (maxDepth - 1) rest with
    | some (path, ']' :: ']' :: rest) => (endLine rest).map (.element path, ·)
    | _ => none
  | '[' :: rest =>
    match readPath (maxDepth - 1) rest with
    | some (path, ']' :: rest) => (endLine rest).map (.header path, ·)
    | _ => none
  | cs =>
    match readPath (maxDepth - 1) cs with
    | some (path, '=' :: rest) =>
      match readValue (maxDepth - 1) (2 * rest.length + 2) (skipBlanks rest) with
      | some (value, rest) => (endLine rest).map (.entry path value, ·)
      | none => none
    | _ => none

/-- Read the lines of a document, in at most `steps` steps. -/
def readLines : Nat → List Char → Option (List Line)
  | 0, _ => none
  | steps + 1, cs =>
    match skipSpace false cs with
    | [] => some []
    | rest =>
      match readLine rest with
      | none => none
      | some (line, rest) => (readLines steps rest).map (line :: ·)

/-- The text without a byte order mark. -/
def withoutMark : List Char → List Char
  | '\ufeff' :: rest => rest
  | cs => cs

/-- The document that a text consists of, if it is TOML. -/
def parse (text : String) : Option Members :=
  let cs := withoutMark text.toList
  (readLines (cs.length + 1) cs).bind document

end Toml

end TenantRegistry
