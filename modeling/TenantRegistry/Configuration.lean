/-
TenantRegistry/Configuration.lean

The configuration of a registry.

It says where records are kept and what is logged.  All of it may be left
out: then records are in memory.  A registry that is durable needs a path.

A configuration is read from TOML (`Configuration.parse`) and written as TOML
(`Configuration.toToml`).  Keys that it does not know are passed over.  A
section may also be an array of its values in order, and the backend may also
be the key of an empty table.
-/
import TenantRegistry.Json.Layout
import TenantRegistry.Toml.Reader

namespace TenantRegistry

/-! ### Settings -/

/-- Where records are kept. -/
inductive StorageBackend where
  /-- In memory, until the program ends. -/
  | memory
  /-- In a database file. -/
  | database
  deriving DecidableEq, Inhabited

namespace StorageBackend

def all : List StorageBackend := [memory, database]

def name : StorageBackend → String
  | memory => "memory"
  | database => "redb"

end StorageBackend

/-- The storage section. -/
structure StorageSettings where
  backend : StorageBackend
  /-- The place of the database file. -/
  path : Option String
  deriving DecidableEq, Inhabited

/-- The logging section. -/
structure LoggingSettings where
  /-- Which records of which parts are logged. -/
  filter : String
  /-- Log lines of JSON. -/
  json : Bool
  deriving DecidableEq, Inhabited

/-- All settings. -/
structure Configuration where
  storage : StorageSettings
  logging : LoggingSettings
  deriving DecidableEq, Inhabited

/-- What is assumed of storage. -/
def StorageSettings.standard : StorageSettings := { backend := .memory, path := none }

/-- What is assumed of logging. -/
def LoggingSettings.standard : LoggingSettings := { filter := "info", json := false }

/-- What is assumed where nothing is said. -/
def Configuration.standard : Configuration := { storage := .standard, logging := .standard }

instance : HasLayout StorageBackend :=
  ⟨.choice StorageBackend.all StorageBackend.name (by intro backend; cases backend <;> rfl)⟩

instance : HasLayout StorageSettings where
  layout := .record (.defaulting "backend" .memory <| .option "path" .nil)
    (fun s => (s.backend, s.path, ()))
    (fun (backend, path, ()) => { backend, path })
    (fun _ => rfl)

instance : HasLayout LoggingSettings where
  layout := .record (.defaulting "filter" "info" <| .defaulting "json" false .nil)
    (fun l => (l.filter, l.json, ()))
    (fun (filter, json, ()) => { filter, json })
    (fun _ => rfl)

instance : HasLayout Configuration where
  layout := .record (.defaulting "storage" .standard <| .defaulting "logging" .standard .nil)
    (fun c => (c.storage, c.logging, ()))
    (fun (storage, logging, ()) => { storage, logging })
    (fun _ => rfl)

/-! ### Reading -/

namespace Toml

/-- A text. -/
def Value.text? : Value → Option String
  | .text value => some value
  | _ => none

/-- A truth value. -/
def Value.boolean? : Value → Option Bool
  | .boolean value => some value
  | _ => none

/-- Whether a value has nothing in it. -/
def Value.isEmpty : Value → Bool
  | .list items => items.isEmpty
  | .table _ members => members.isEmpty
  | .tables elements => elements.isEmpty
  | _ => false

/-- The name that a value picks out of an enumeration: a text, or the first key
of a table, with nothing under it.  An inline table has no other key. -/
def Value.chosen? : Value → Option String
  | .text value => some value
  | .table origin ((name, value) :: rest) =>
    if value.isEmpty && (rest.isEmpty || origin ≠ .inline) then some name else none
  | _ => none

/-- The value under a key, if it is given, or else a value to assume. -/
def field {α : Type} (members : Members) (key : String) (read : Value → Option α)
    (missing : α) : Option α :=
  match members.get? key with
  | some value => read value
  | none => some missing

end Toml

/-- A backend by its name. -/
def StorageBackend.ofToml (value : Toml.Value) : Option StorageBackend :=
  value.chosen?.bind fun chosen => all.find? fun backend => backend.name = chosen

/-- The storage section. -/
def StorageSettings.ofToml : Toml.Value → Option StorageSettings
  | .table _ members => do
    let backend ← Toml.field members "backend" StorageBackend.ofToml .memory
    let path ← Toml.field members "path" (fun value : Toml.Value => value.text?.map some) none
    some { backend, path }
  | .list (backend :: path :: _) => do
    let backend ← StorageBackend.ofToml backend
    let path ← path.text?
    some { backend, path }
  | .moment _ => some .standard
  | _ => none

/-- The logging section. -/
def LoggingSettings.ofToml : Toml.Value → Option LoggingSettings
  | .table _ members => do
    let filter ← Toml.field members "filter" Toml.Value.text? "info"
    let json ← Toml.field members "json" Toml.Value.boolean? false
    some { filter, json }
  | .list items => do
    let filter ← items.head?.elim (some "info") Toml.Value.text?
    let json ← items.tail.head?.elim (some false) Toml.Value.boolean?
    some { filter, json }
  | .moment _ => some .standard
  | _ => none

namespace Configuration

/-- Why a configuration was refused. -/
inductive Refusal where
  /-- The text says nothing that a configuration could be. -/
  | unreadable
  /-- A durable registry has no path. -/
  | noPath
  deriving DecidableEq

/-- What is said of a durable registry without a path. -/
def Refusal.message : Refusal → String
  | .unreadable => "TOML parse error"
  | .noPath => "storage.path is required when storage.backend = \"redb\""

/-- The settings in a document. -/
def ofToml (members : Toml.Members) : Option Configuration := do
  let storage ← Toml.field members "storage" StorageSettings.ofToml .standard
  let logging ← Toml.field members "logging" LoggingSettings.ofToml .standard
  some { storage, logging }

/-- A durable registry has a path. -/
def check (configuration : Configuration) : Except Refusal Configuration :=
  if configuration.storage.backend = .database ∧ configuration.storage.path = none then
    .error .noPath
  else .ok configuration

/-- The configuration in a text. -/
def parse (text : String) : Except Refusal Configuration :=
  ((Toml.parse text).bind ofToml).elim (.error .unreadable) check

/-! ### Writing -/

/-- A line with a key and a value. -/
def entryLine (key : String) (value : List Char) : List Char :=
  key.toList ++ [' ', '=', ' '] ++ value ++ ['\n']

/-- A line with the header of a section. -/
def headerLine (name : String) : List Char := ['['] ++ name.toList ++ [']', '\n']

/-- A configuration as TOML. -/
def toToml (configuration : Configuration) : String :=
  String.ofList
    (headerLine "storage" ++
      entryLine "backend" (Toml.quote configuration.storage.backend.name) ++
      (configuration.storage.path.elim [] fun path => entryLine "path" (Toml.quote path)) ++
      ['\n'] ++
      headerLine "logging" ++
      entryLine "filter" (Toml.quote configuration.logging.filter) ++
      entryLine "json" (toString configuration.logging.json).toList)

end Configuration

end TenantRegistry
