import Reckon.Calculus
import Reckon.Cli.Options
import Reckon.Number.Read
/-!
# Command line — commands

The commands and what each reads from its arguments. Numbers are read as
everywhere; an argument that is missing, left over or unreadable makes the
command line one that cannot be run.
-/

namespace Reckon

namespace Cli

/-- The names of the commands. -/
inductive CommandName where
  | eval
  | functions
  | derivative
  | integrate
  | root
  | limit
  | extremum
deriving DecidableEq

namespace CommandName

/-- The word for a command. -/
def word : CommandName → String
  | eval => "eval"
  | functions => "functions"
  | derivative => "derivative"
  | integrate => "integrate"
  | root => "root"
  | limit => "limit"
  | extremum => "extremum"

/-- All commands. -/
def all : List CommandName :=
  [eval, functions, derivative, integrate, root, limit, extremum]

/-- The command that a word names. -/
def ofWord? (s : String) : Option CommandName :=
  all.find? (·.word = s)

end CommandName

/-- A command with what it was given. -/
inductive Command where
  | eval (expression : String)
  | functions
  | derivative (template : String) (point : Float)
  | integrate (template : String) (lower upper : Float) (intervals : Option Int)
  | root (template : String) (guess : Float)
  | limit (template : String) (point : Float)
  | extremum (template : String) (lower upper : Float) (kind : Calculus.Extremum)

/-- The options of a command. -/
def CommandName.switches : CommandName → List Switch
  | eval | functions => []
  | derivative | limit => [{ name := "at" }]
  | integrate => [{ name := "from" }, { name := "to" }, { name := "intervals", short := 'n' }]
  | root => [{ name := "guess", short := 'g' }]
  | extremum => [{ name := "from" }, { name := "to" }, { name := "max", takesValue := false }]

/-- The value of an option that has to be a number. -/
def Arguments.number? (a : Arguments) (name : String) : Option Float :=
  (a.value? name).bind Number.ofText?

/-- The only argument. -/
def Arguments.single? (a : Arguments) : Option String :=
  match a.rest with
  | [s] => some s
  | _ => none

/-- The number of parts, where it is given: a whole number from two on. -/
def Arguments.intervals? (a : Arguments) : Option (Option Int) :=
  match a.value? "intervals" with
  | none => some none
  | some s =>
    match Number.wholeOfText s with
    | .ok n => if n < 2 then none else some (some n)
    | .error _ => none

/-- The starting point, zero where none is given. -/
def Arguments.guess? (a : Arguments) : Option Float :=
  match a.value? "guess" with
  | none => some 0.0
  | some s => Number.ofText? s

/-- What a command reads from its divided arguments. -/
def CommandName.command? (name : CommandName) (a : Arguments) : Option Command :=
  match name with
  | eval => if a.rest = [] then none else some (.eval (" ".intercalate a.rest))
  | functions => if a.rest = [] then some .functions else none
  | derivative => return .derivative (← a.single?) (← a.number? "at")
  | integrate =>
    return .integrate (← a.single?) (← a.number? "from") (← a.number? "to") (← a.intervals?)
  | root => return .root (← a.single?) (← a.guess?)
  | limit => return .limit (← a.single?) (← a.number? "at")
  | extremum =>
    let kind : Calculus.Extremum := if a.has "max" then .maximum else .minimum
    return .extremum (← a.single?) (← a.number? "from") (← a.number? "to") kind

/-- **The command of a name with its arguments.** Options and arguments may
come in any order. -/
def CommandName.read? (name : CommandName) (args : List String) : Option Command :=
  (divide name.switches true args).bind name.command?

end Cli

end Reckon
