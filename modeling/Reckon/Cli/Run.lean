import Reckon.Cli.Calculation
import Reckon.Cli.Catalog
import Reckon.Log
import Reckon.Settings.File
import Reckon.Text.Markup
/-!
# Command line — a run

What a command line comes to: the options before the command, the settings
file, the command, its report and what is logged on the way. A run is a value;
nothing is read or printed here.
-/

namespace Reckon

namespace Cli

/-- What a path leads to. -/
inductive Place where
  | missing
  | file (text : String)
  /-- What cannot be read as a file: the number of the failure, and what it is
  called. -/
  | noFile (number : Nat) (reason : String)

/-- Why a run breaks off without a report. -/
inductive Breakdown where
  /-- Reading the settings file fails. -/
  | noFile (number : Nat) (reason path : String)
  /-- The settings file cannot be read as one. -/
  | file (e : Settings.FileError)
  /-- The configured level is none. -/
  | level (e : Log.NoLevel)
  /-- The calculation fails for its parameters. -/
  | calculation (e : Failure)

/-- The wording of a breakdown. -/
def Breakdown.message : Breakdown → String
  | noFile number reason path =>
    "[Errno " ++ toString number ++ "] " ++ reason ++ ": " ++ Text.quoted path
  | file e => e.message
  | level e => e.message
  | calculation (.noResult e) => e.message
  | calculation .parameterNoDouble => "parameter out of range"

/-- What a command line comes to. -/
inductive Outcome where
  /-- It cannot be run. -/
  | usage
  /-- It breaks off. -/
  | broken (why : Breakdown)
  /-- It ends with a status and what it prints. -/
  | ended (status : Nat) (output errors : String)
  /-- It ends well, with a calculation to print as a record. -/
  | record (c : Calculation)

/-- The options before the command. -/
def globalSwitches : List Switch :=
  [{ name := "config", short := 'c' }, { name := "json", takesValue := false }]

/-! ## What is shown -/

/-- A message in markup as a line. -/
def shownLine (message : String) : String :=
  String.ofList (Text.Markup.shown message.toList) ++ "\n"

/-- A text in markup, of which nothing is a tag. -/
def asText (s : String) : String :=
  String.ofList (Text.Markup.escape s.toList)

/-- A run that ends badly, with a message. -/
def failed (message : String) : Outcome :=
  .ended 1 "" (shownLine ("[red]Error:[/] " ++ asText message))

/-- A run that ends because its settings file is missing. -/
def missingFile (path : String) : Outcome :=
  .ended 1 "" (shownLine ("[red]Config file not found: " ++ asText path ++ "[/]"))

/-- A run that ends because its settings file is refused. -/
def invalidFile : Outcome :=
  .ended 1 "" "Invalid config file:"

/-! ## Paths -/

/-- The names of a path between its slashes. -/
def pathNames (s : List Char) : List (List Char) :=
  s.foldr
    (fun c names =>
      if c = '/' then [] :: names
      else match names with
        | [] => [[c]]
        | name :: names => (c :: name) :: names)
    [[]]

/-- The slashes that a path starts with: none, one, or exactly two. -/
def pathRoot : List Char → List Char
  | '/' :: '/' :: '/' :: _ => ['/']
  | '/' :: '/' :: _ => ['/', '/']
  | '/' :: _ => ['/']
  | _ => []

/-- A path as it is shown: without empty names and single dots. -/
def shownPath (path : String) : String :=
  let s := path.toList
  let names := (pathNames s).filter fun name => name ≠ [] ∧ name ≠ ['.']
  let shown := pathRoot s ++ ['/'].intercalate names
  if shown = [] then "." else String.ofList shown

/-! ## The run -/

/-- The path of the settings file that a command line names. -/
def settingsPath? (args : List String) : Option String :=
  (divide globalSwitches false args).bind fun globals =>
    (globals.value? "config").map shownPath

/-- The settings of a run: those of the settings file where one is named,
else the standing ones. -/
def configuredBy (standing : Settings.Standing) (place : String → Place)
    (sources : Settings.Sources) (path? : Option String) : Except Outcome Settings.Standing :=
  match path?.map shownPath with
  | none => .ok standing
  | some path =>
    match place path with
    | .missing => .error (missingFile path)
    | .noFile number reason => .error (.broken (.noFile number reason path))
    | .file text =>
      match Settings.ofFile path (some text) sources with
      | .ok settings => .ok settings.standing
      | .error e => .error (if e.breaksOff then .broken (.file e) else invalidFile)

/-- How a calculation without a result ends a run. -/
def Failure.outcome : Failure → Outcome
  | noResult e => if e.breaksOff then .broken (.calculation (noResult e)) else failed e.message
  | parameterNoDouble => .broken (.calculation parameterNoDouble)

/-- The report of a command. -/
def Command.report (standing configured : Settings.Standing) (json : Bool)
    (command : Command) : Outcome :=
  match command.compute standing configured with
  | none => .ended 0 (String.join (catalogTable.lines.map (· ++ "\n"))) ""
  | some (.ok c) => if json then .record c else .ended 0 (c.line ++ "\n") ""
  | some (.error e) => e.outcome

/-- Runs a command with its arguments, of which the options before it are
told apart already. The level of the log is looked at first. -/
def CommandName.run (name : CommandName) (standing configured : Settings.Standing) (json : Bool)
    (args : List String) : Outcome :=
  match Log.passes (configured .logLevel), name.read? args with
  | .error e, _ => .broken (.level e)
  | .ok _, none => .usage
  | .ok _, some command => command.report standing configured json

/-- The events that a command logs: those that it reports, where the level lets
them pass. -/
def CommandName.logged (name : CommandName) (standing configured : Settings.Standing)
    (args : List String) : List Event :=
  match Log.passes (configured .logLevel), name.read? args with
  | .ok true, some command => command.events standing configured
  | _, _ => []

/-- A command that a command line asks for, with the settings it runs under. -/
structure Invocation where
  name : CommandName
  configured : Settings.Standing
  json : Bool
  args : List String

/-- What a command line asks for, or how it ends before its command is run. A
missing or unknown command is found before the settings file is read, and what
a command reads from its own arguments after that. No path holds a null
character. -/
def invocation (standing : Settings.Standing) (place : String → Place) (sources : Settings.Sources)
    (args : List String) : Except Outcome Invocation :=
  match divide globalSwitches false args with
  | none => .error .usage
  | some globals =>
    let path? := globals.value? "config"
    match globals.rest with
    | [] => .error .usage
    | word :: args =>
      match CommandName.ofWord? word, path?.any (·.toList.contains '\x00') with
      | none, _ | _, true => .error .usage
      | some name, false => do
        let configured ← configuredBy standing place sources path?
        return ⟨name, configured, globals.has "json", args⟩

/-- **Runs a command line.** -/
def run (standing : Settings.Standing) (place : String → Place) (sources : Settings.Sources)
    (args : List String) : Outcome :=
  match invocation standing place sources args with
  | .error outcome => outcome
  | .ok i => i.name.run standing i.configured i.json i.args

/-- **The events that a run logs.** Their time is not part of them. -/
def logged (standing : Settings.Standing) (place : String → Place) (sources : Settings.Sources)
    (args : List String) : List Event :=
  match invocation standing place sources args with
  | .error _ => []
  | .ok i => i.name.logged standing i.configured i.args

end Cli

end Reckon
