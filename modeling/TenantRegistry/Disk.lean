/-
TenantRegistry/Disk.lean

A disk as a value.

A disk maps paths to what lies there: a text, a database or a directory.  A
path is a list of names; `.` and an empty name stay where they are, which has
to be a directory, and `..` goes up.

A database is opened where there is none yet, or an empty file, or a database;
the directories above it are made.  It needs a name of its own, so that the
path of a directory does not do.
-/
import TenantRegistry.Files

namespace TenantRegistry

/-- What lies at a path. -/
inductive DiskEntry where
  | text (contents : String)
  | database (contents : Durable)
  | directory

/-- What lies at each path, the names of a path joined with `/`. -/
structure Disk where
  entries : OrderedMap DiskEntry

namespace Disk

/-- A disk with nothing on it. -/
def empty : Disk := ⟨.empty⟩

/-- The name of a place. -/
def placeName (place : List String) : String := "/".intercalate place

/-- What lies at a place.  The top is a directory. -/
def entry? (disk : Disk) (place : List String) : Option DiskEntry :=
  if place.isEmpty then some .directory else disk.entries.get? (placeName place)

/-- Put something at a place. -/
def put (disk : Disk) (place : List String) (entry : DiskEntry) : Disk :=
  ⟨disk.entries.insert (placeName place) entry⟩

/-- Whether a place is a directory. -/
def isDirectory (disk : Disk) (place : List String) : Bool :=
  match disk.entry? place with
  | some .directory => true
  | _ => false

/-! ### Paths -/

/-- The names in a path. -/
def namesOf (path : String) : List String := path.splitOn "/"

/-- Whether a name stays where it is. -/
def isHere (name : String) : Bool := name = "" || name = "."

/-- The longest name, in bytes. -/
def longestName : Nat := 255

/-- Follow names from a place.  With `making`, missing directories are made. -/
def walk (making : Bool) (disk : Disk) (place : List String) :
    List String → Except FileError (List String × Disk)
  | [] => .ok (place, disk)
  | name :: rest =>
    if !disk.isDirectory place then .error .notADirectory
    else if isHere name then walk making disk place rest
    else if name = ".." then walk making disk place.dropLast rest
    else if longestName < name.utf8ByteSize then .error .nameTooLong
    else
      let next := place ++ [name]
      match disk.entry? next with
      | some _ => walk making disk next rest
      | none =>
        if making then walk making (disk.put next .directory) next rest else .error .missing

/-! ### Files -/

/-- The text at a path. -/
def readText (disk : Disk) (path : String) : Except FileError String := do
  let (place, _) ← disk.walk false [] (namesOf path)
  match disk.entry? place with
  | some (.text contents) => return contents
  | some (.database _) => throw .notText
  | some .directory => throw .isADirectory
  | none => throw .missing

/-- Write a text at a path, with the directories above it. -/
def writeText (disk : Disk) (path contents : String) : Disk :=
  let names := (namesOf path).filter fun name => !isHere name
  match disk.walk true [] names.dropLast with
  | .ok (place, disk) => disk.put (place ++ names.getLast?.toList) (.text contents)
  | .error _ => disk

/-- Make the directories above a path; the place of what the path names, if that
has a name of its own. -/
def prepare (disk : Disk) (path : String) : Option (List String) × Disk :=
  let names := namesOf path
  let last := names.getLastD ""
  let above := (names.filter fun name => !isHere name).dropLast
  match disk.walk true [] above with
  | .error _ => (none, disk)
  | .ok (place, made) =>
    if !made.isDirectory place || isHere last || last = ".." || path.contains '\x00' ||
        longestName < last.utf8ByteSize then
      (none, made)
    else (some (place ++ [last]), made)

/-- Open the database at a path. -/
def openDatabase (disk : Disk) (path : String) : Option Durable × Disk :=
  match disk.prepare path with
  | (none, disk) => (none, disk)
  | (some place, disk) =>
    match disk.entry? place with
    | some .directory => (none, disk)
    | some (.database contents) => (some contents, disk)
    | some (.text contents) =>
      if contents.isEmpty then (some .empty, disk.put place (.database .empty)) else (none, disk)
    | none => (some .empty, disk.put place (.database .empty))

/-- Keep a database at a path. -/
def saveDatabase (disk : Disk) (path : String) (contents : Durable) : Disk :=
  match disk.prepare path with
  | (none, disk) => disk
  | (some place, disk) => disk.put place (.database contents)

/-- The files of a disk. -/
def files : Files (StateM Disk) where
  readText path := return (← get).readText path
  openDatabase path := modifyGet (·.openDatabase path)
  saveDatabase path contents := modify (·.saveDatabase path contents)

end Disk

end TenantRegistry
