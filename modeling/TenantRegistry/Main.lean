/-
TenantRegistry/Main.lean

The program: one run of the command line on the files of this machine.

Nothing is decided here.  Ids are random, and the clock is that of the machine.
-/
import TenantRegistry.CommandLine.Run
import TenantRegistry.Disk
import TenantRegistry.Text.Uuid
import Std.Time.DateTime.Timestamp

namespace TenantRegistry

namespace Machine

/-- What a failure of the machine says. -/
def fileError (failure : IO.Error) : FileError :=
  match failure with
  | .noFileOrDirectory _ code details => .system details code.toNat
  | .inappropriateType _ code details => .system details code.toNat
  | .permissionDenied _ code details => .system details code.toNat
  | .invalidArgument _ code details => .system details code.toNat
  | .otherError code details => .system details code.toNat
  | other => .system other.toString 0

/-- The text of a file. -/
def readText (path : String) : IO (Except FileError String) := do
  match ← (IO.FS.readBinFile path).toBaseIO with
  | .error failure => return .error (fileError failure)
  | .ok bytes => return (String.fromUTF8? bytes).elim (.error .notText) .ok

/-- Keep a database in a file. -/
def saveDatabase (path : String) (contents : Durable) : IO Unit :=
  IO.FS.writeFile path contents.toFile

/-- Make the directories above a path. -/
def prepare (path : String) : IO Unit := do
  let names := (Disk.namesOf path).dropLast
  let above := Disk.placeName names
  if above ≠ "" then IO.FS.createDirAll above

/-- The database in a file. -/
def openDatabase (path : String) : IO (Option Durable) := do
  let attempt : IO (Option Durable) := do
    prepare path
    match ← readText path with
    | .ok text => return Durable.ofFile? text
    | .error _ =>
      saveDatabase path .empty
      return some .empty
  return (← attempt.toBaseIO).toOption.join

/-- The files of this machine. -/
def files : Files IO where
  readText := readText
  openDatabase := openDatabase
  saveDatabase := saveDatabase

/-- A random source of ids. -/
def randomIds : IO IdSource := do
  let bytes ← IO.getRandomBytes 16
  return .uuids (bytes.data.foldl (fun value byte => 256 * value + byte.toNat) 0)

/-- The seconds of the epoch. -/
def seconds : IO Int64 := do
  let now ← Std.Time.Timestamp.now
  return Int64.ofInt now.toSecondsSinceUnixEpoch.val

/-- One run on this machine. -/
def run (arguments : List String) : IO UInt32 := do
  let (outcome, _) ← CommandLine.run files arguments (← randomIds) (← seconds)
  (← IO.getStdout).putStr outcome.output
  (← IO.getStderr).putStr outcome.errors
  return outcome.exitCode

end Machine

end TenantRegistry

/-- Run the command line. -/
def main (arguments : List String) : IO UInt32 := TenantRegistry.Machine.run arguments
