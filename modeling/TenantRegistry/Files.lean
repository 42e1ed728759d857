/-
TenantRegistry/Files.lean

What the registry needs of files.

A configuration and a descriptor are read as text, and a durable registry is
kept in a database file.  `Files m` says how these are done in a monad `m`: on
a real system, or on a disk that is a value (see `Disk`).
-/
import TenantRegistry.Configuration
import TenantRegistry.Session

namespace TenantRegistry

/-- Why a file cannot be read. -/
inductive FileError where
  /-- The system says so, with a number. -/
  | system (text : String) (code : Nat)
  /-- It is no text. -/
  | notText
  deriving DecidableEq

namespace FileError

def missing : FileError := .system "No such file or directory" 2

def notADirectory : FileError := .system "Not a directory" 20

def isADirectory : FileError := .system "Is a directory" 21

def nameTooLong : FileError := .system "File name too long" 36

def message : FileError → String
  | .system text code => s!"{text} (os error {code})"
  | .notText => "stream did not contain valid UTF-8"

end FileError

/-- Files, as far as the registry needs them. -/
structure Files (m : Type → Type) where
  /-- The text of a file. -/
  readText : String → m (Except FileError String)
  /-- The database in a file, which is made if it is missing. -/
  openDatabase : String → m (Option Durable)
  /-- Keep a database in a file. -/
  saveDatabase : String → Durable → m Unit

variable {m : Type → Type} [Monad m]

/-- Open the storage that the settings ask for. -/
def Files.openStore (files : Files m) (settings : StorageSettings) :
    m (Except RegistryError Store) :=
  match settings.backend, settings.path with
  | .memory, _ => return .ok (.memory .empty)
  | .database, none => return .error (.invalidArgument .noPath)
  | .database, some path => do
    match ← files.openDatabase path with
    | some contents => return .ok (.durable contents)
    | none => return .error (.storage (.openDatabase path))

/-- Keep what is durable. -/
def Files.saveStore (files : Files m) (settings : StorageSettings) : Store → m Unit
  | .memory _ => return ()
  | .durable contents =>
    match settings.path with
    | some path => files.saveDatabase path contents
    | none => return ()

end TenantRegistry
