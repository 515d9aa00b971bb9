/-!
# Command line — options

How arguments divide into options and the rest: `--name`, `--name value`,
`--name=value`, `-n value` and `-nvalue`. After `--` nothing is an option. An
option's value is the next argument, whatever that looks like; a single
dash is no option.
-/

namespace Reckon

namespace Cli

/-- An option that a command knows. A short name takes a value. -/
structure Switch where
  name : String
  short : Option Char := none
  takesValue : Bool := true

/-- The options of a command line, in order, and its other arguments. A
switch without a value has the empty text for it. -/
structure Arguments where
  options : List (String × String) := []
  rest : List String := []

namespace Arguments

/-- Adds an option in front. -/
def withOption (name value : String) (a : Arguments) : Arguments :=
  { a with options := (name, value) :: a.options }

/-- Adds an argument in front. -/
def withArgument (s : String) (a : Arguments) : Arguments :=
  { a with rest := s :: a.rest }

/-- The value of an option; the last one counts. -/
def value? (a : Arguments) (name : String) : Option String :=
  a.options.reverse.lookup name

/-- Whether a switch is there. -/
def has (a : Arguments) (name : String) : Bool :=
  (a.value? name).isSome

end Arguments

/-- An argument as an option: its name, and a value where it holds one. -/
inductive Reading where
  | plain
  | endOfOptions
  | option (switch : Switch) (value : Option String)
  | unknown

/-- The name and the value on either side of the first equals sign. -/
def splitEquals (s : List Char) : List Char × Option (List Char) :=
  match s.dropWhile (· ≠ '=') with
  | '=' :: value => (s.takeWhile (· ≠ '='), some value)
  | _ => (s, none)

/-- A long option. Only an option that takes a value may hold one. -/
def readLong (known : List Switch) (s : List Char) : Reading :=
  let (name, value) := splitEquals s
  match known.find? (·.name = String.ofList name) with
  | none => .unknown
  | some switch =>
    if value.isSome ∧ !switch.takesValue then .unknown
    else .option switch (value.map String.ofList)

/-- A short option, with a value where more characters follow it. -/
def readShort (known : List Switch) (c : Char) (more : List Char) : Reading :=
  match known.find? (·.short = some c) with
  | none => .unknown
  | some switch => .option switch (if more = [] then none else some (String.ofList more))

/-- What an argument is. -/
def read (known : List Switch) (argument : String) : Reading :=
  match argument.toList with
  | ['-', '-'] => .endOfOptions
  | '-' :: '-' :: name => readLong known name
  | '-' :: c :: more => readShort known c more
  | _ => .plain

/-- **Divides a command line.** Where options and arguments do not mix, the
first argument ends the options. An unknown option and a missing value
leave nothing. -/
def divide (known : List Switch) (mixed : Bool) : List String → Option Arguments
  | [] => some {}
  | argument :: rest =>
    match read known argument with
    | .plain =>
      if mixed then (divide known mixed rest).map (·.withArgument argument)
      else some { rest := argument :: rest }
    | .endOfOptions => some { rest := rest }
    | .unknown => none
    | .option switch (some value) => (divide known mixed rest).map (·.withOption switch.name value)
    | .option switch none =>
      if switch.takesValue then
        match rest with
        | [] => none
        | value :: rest => (divide known mixed rest).map (·.withOption switch.name value)
      else (divide known mixed rest).map (·.withOption switch.name "")

end Cli

end Reckon
