/-
TenantRegistry/CommandLine/Run.lean

One run of the command line.

A run reads its arguments, its configuration and, for some commands, a file;
it opens the registry, runs one command and prints what comes of it.  What
was wrong is said in one line, and the exit code tells how far the run came:
0 if all went well, 1 if the command failed, 2 if the arguments are wrong.
-/
import TenantRegistry.CommandLine.Arguments
import TenantRegistry.Files

namespace TenantRegistry

namespace CommandLine

/-- What a run leaves behind. -/
structure Outcome where
  exitCode : UInt32
  output : String
  errors : String

/-- What the program says of its version. -/
def versionText : String := "sysmodelctl 0.1.0\n"

/-- What the program says of its use. -/
def usageText : String :=
  "Usage: sysmodelctl [--config <CONFIG>] <org|cluster|descriptor|instance> <ACTION> [OPTIONS]\n"

/-- A run that printed something. -/
def printed (output : String) : Outcome := ⟨0, output, ""⟩

/-- A run whose command failed. -/
def failed (message : String) : Outcome := ⟨1, "", "Error: " ++ message ++ "\n"⟩

/-- A run whose arguments are wrong. -/
def misused : Outcome := ⟨2, "", usageText⟩

variable {m : Type → Type} [Monad m]

/-- The configuration at a path, or the one to assume. -/
def readConfiguration (files : Files m) : Option String → m (Except String Configuration)
  | none => return .ok .standard
  | some path => do
    match ← files.readText path with
    | .error cause => return .error cause.message
    | .ok text => return (Configuration.parse text).mapError (·.message)

/-- The text of the file that a command reads, if it can be read. -/
def readInput (files : Files m) (command : Command) : m (Option String) := do
  match command.file? with
  | none => return none
  | some path => return (← files.readText path).toOption

/-- Run a command on an open registry: what it leaves behind, and the registry
after it. -/
def runCommand (command : Command) (input : Option String) (session : Session) :
    Outcome × Session :=
  match command.procedure input with
  | .error cause => (failed cause.message, session)
  | .ok procedure =>
    match session.run procedure with
    | (.ok output, session) => (printed output, session)
    | (.error cause, session) => (failed cause.message, session)

/-- Run a command under a configuration: what it leaves behind, and the ids that
are left. -/
def runConfigured (files : Files m) (configuration : Configuration) (command : Command)
    (ids : IdSource) (clock : Int64) : m (Outcome × IdSource) := do
  match ← files.openStore configuration.storage with
  | .error cause => return (failed cause.message, ids)
  | .ok store => do
    let input ← readInput files command
    let (outcome, session) := runCommand command input (.start store ids clock)
    files.saveStore configuration.storage session.store
    return (outcome, session.world.ids)

/-- One run: what it leaves behind, and the ids that are left. -/
def run (files : Files m) (arguments : List String) (ids : IdSource) (clock : Int64) :
    m (Outcome × IdSource) := do
  match readArguments arguments with
  | .help => return (printed usageText, ids)
  | .version => return (printed versionText, ids)
  | .misuse => return (misused, ids)
  | .run path command =>
    match ← readConfiguration files path with
    | .error message => return (failed message, ids)
    | .ok configuration => runConfigured files configuration command ids clock

end CommandLine

end TenantRegistry
