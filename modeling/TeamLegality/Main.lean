import Std.Time.Format
import TeamLegality.CommandLine
import TeamLegality.Json.Reading

/-!
# The program — files in, a log and an exit code out
-/

namespace TeamLegality.CommandLine

/-- Reads a document from a file. -/
def readDocument (path : String) : IO Json := do
  match Json.read? (← IO.FS.readFile path) with
  | some j => return j
  | none => throw (IO.userError ("no document in " ++ path))

/-- Reads a team from a file. -/
def readTeam (path : String) : IO TeamSource := do
  if Arguments.isDocumentPath path then return .document (← readDocument path)
  else return .plain (← IO.FS.readFile path)

/-- Writes a message of the log, with the time of day before it. -/
def writeMessage (m : Message) : IO Unit := do
  let now ← Std.Time.PlainDateTime.now
  IO.eprintln ("[" ++ now.format "HH:mm:ss" ++ "] " ++ m.line)

/-- Checks the files of a command line. -/
def checkFiles (arguments : Arguments) : IO UInt32 := do
  let dex ← readDocument arguments.dexPath
  let team ← readTeam arguments.teamPath
  let outcome :=
    run { dex, team, format := arguments.format, verbose := arguments.verbose }
  outcome.log.forM writeMessage
  match outcome.exit with
  | .ok code => return code.toNat.toUInt32
  | .error cause =>
    IO.eprintln cause.message
    return 1

end TeamLegality.CommandLine

open TeamLegality.CommandLine in
/-- Checks a team file against a format. -/
def main (args : List String) : IO UInt32 := do
  match Arguments.read? args [] none false with
  | some arguments => checkFiles arguments
  | none =>
    IO.eprintln Arguments.usage
    return usageCode.toNat.toUInt32
