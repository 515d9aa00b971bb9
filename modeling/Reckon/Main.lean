import Reckon.Cli.Record
import Reckon.Cli.Run
import Reckon.Document.Dotenv
/-!
# Main — the command line program

Reads the environment and the files that a run needs, runs the command line,
and prints what it comes to.
-/

namespace Reckon

/-- What a path leads to. Reading a directory fails with its own code, and
what cannot be read otherwise is taken as missing. -/
def placeAt (path : String) : IO Cli.Place := do
  try return .file (← IO.FS.readFile path)
  catch
    | .inappropriateType _ 21 reason => return .noFile 21 reason
    | _ => return .missing

/-- The file with the environment that the program was started under. -/
def environmentFile : String := "/proc/self/environ"

/-- A variable as the environment has it, `NAME=value`. -/
def namedValue? (entry : String) : Option (String × String) :=
  let name := entry.toList.takeWhile (· ≠ '=')
  match entry.toList.drop name.length with
  | '=' :: value => some (String.ofList name, String.ofList value)
  | _ => none

/-- The variables of an environment, in order. A zero ends each of them, and
one that is no text is passed over. -/
def variablesOf (bytes : ByteArray) : List (String × String) :=
  let split : List ByteArray × ByteArray := bytes.foldl (fun (before, entry) byte =>
    if byte = 0 then (entry :: before, .empty) else (before, entry.push byte)) ([], .empty)
  split.1.reverse.filterMap fun entry => String.fromUTF8? entry >>= namedValue?

/-- The variables that hold settings under their names in upper and in lower
case. -/
def settingsVariables : IO (List (String × String)) := do
  let names := Settings.Field.all.flatMap fun f =>
    let name := Settings.variableStart ++ f.name
    [name.toUpper, name]
  names.filterMapM fun name => do return (← IO.getEnv name).map (name, ·)

/-- The environment. Where the system has no file of it, the variables that
hold settings are asked for. -/
def environmentVariables : IO (List (String × String)) := do
  try return variablesOf (← IO.FS.readBinFile environmentFile)
  catch _ => settingsVariables

/-- The file of variables in the working directory. -/
def variablesFile : String := ".env"

/-- Prints an outcome and gives its status. -/
def Cli.Outcome.print : Cli.Outcome → IO UInt32
  | .usage => do
    IO.eprintln "Usage: [--config FILE] [--json] COMMAND [ARGUMENTS]"
    return 2
  | .broken why => do
    IO.eprintln why.message
    return 1
  | .ended status output errors => do
    IO.print output
    IO.eprint errors
    return UInt32.ofNat status
  | .record c => do
    IO.println c.json
    return 0

/-- Runs a command line under the settings of the environment. -/
def runWith (args : List String) : IO UInt32 := do
  let environment ← environmentVariables
  let text := match ← placeAt variablesFile with
    | .file text => text
    | .missing | .noFile _ _ => ""
  let sources := ({ environment, text } : Settings.Contents).sources
  match Settings.resolve sources with
  | .error problems =>
    IO.eprintln (Settings.problemText problems)
    return 1
  | .ok settings =>
    let path? := Cli.settingsPath? args
    let found ← match path? with
      | some path => placeAt path
      | none => pure .missing
    let place (path : String) : Cli.Place := if path? = some path then found else .missing
    (Cli.run settings.standing place sources args).print

end Reckon

def main (args : List String) : IO UInt32 :=
  Reckon.runWith args
