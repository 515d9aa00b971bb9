import Reckon.Document.Dotenv
import Reckon.Settings.Conversion
/-!
# Settings — resolution of the sources

Settings come from given values, the environment, an environment file and
the defaults, in this order. What a name holds and what a field makes of a
value is decided here. How one source goes before another, and how the
checks of several fields are put together, is left to a `Library`, and
resolution is the same for each of them; a run goes by the standard one, in
which each field takes the value of its first source, and what is refused is
listed field by field, in the order of the fields.
-/

namespace Reckon

namespace Settings

/-! ## The sources -/

/-- The sources of settings. -/
inductive Source where
  | given
  | environment
  | file
deriving DecidableEq

/-- The sources in order. -/
def Source.all : List Source :=
  [given, environment, file]

/-- What the sources hold: given values by field name, and variables of the
environment and of an environment file by variable name. Of several entries
of one name the last counts. -/
structure Sources where
  given : List (String × Value) := []
  environment : List (String × String) := []
  file : List (String × Option String) := []

/-- What the sources are read from: given values, the environment, and the
text of an environment file, which may refer to the environment. -/
structure Contents where
  given : List (String × Value) := []
  environment : List (String × String) := []
  text : String := ""

/-- What is read from them. -/
def Contents.sources (c : Contents) : Sources where
  given := c.given
  environment := c.environment
  file := Dotenv.entries c.environment c.text

/-! ## The entries of a field -/

/-- The start of the variables that hold settings. -/
def variableStart : String := "exprcalc_"

/-- Whether a variable, in any case, holds a field. -/
def isVariableOf (f : Field) (variableName : String) : Bool :=
  variableName.toLower = variableStart ++ f.name

/-- The value of the last entry whose name satisfies a test. -/
def lastWhere {α : Type} (test : String → Bool) (entries : List (String × α)) : Option α :=
  (entries.reverse.find? fun entry => test entry.1).map (·.2)

/-- The given value of a field, whose name may be written in any case. Of
several spellings the first one counts. -/
def givenValue? (f : Field) (given : List (String × Value)) : Option Value := do
  let (spelling, _) ← given.find? fun entry => entry.1.toLower = f.name
  lastWhere (· = spelling) given

/-- What a source supplies for a field. -/
def Sources.supplied? (sources : Sources) (f : Field) : Source → Option Value
  | .given => givenValue? f sources.given
  | .environment => (lastWhere (isVariableOf f) sources.environment).map .text
  | .file => ((lastWhere (isVariableOf f) sources.file).join).map .text

/-! ## Libraries -/

/-- A value for each field that has one. -/
abbrev Record := Field → Option Value

/-- The issues of refused fields. -/
abbrev Problems := List (Field × Issue)

/-- **What is left to a library.** -/
structure Library where
  /-- The record of a source over that of the sources below it. -/
  overlay : Record → Record → Record
  /-- What was checked so far, applied to one more checked value. -/
  also {α β : Type} : Except Problems (α → β) → Except Problems α → Except Problems β

/-- **What a library is documented to do:** a source hides what lies below it
field by field, and the check of one more field adds its problems to those
before it. -/
structure Library.Lawful (lib : Library) : Prop where
  /-- A value hides the one below it. -/
  overlay_some {upper lower : Record} {f : Field} {value : Value} :
    upper f = some value → lib.overlay upper lower f = some value
  /-- Without one the value below it shows. -/
  overlay_none {upper lower : Record} {f : Field} :
    upper f = none → lib.overlay upper lower f = lower f
  /-- Values go on where nothing is refused. -/
  also_values {α β : Type} (g : α → β) (a : α) : lib.also (.ok g) (.ok a) = .ok (g a)
  /-- The problems so far stay, -/
  also_before {α β : Type} (ps : Problems) (a : α) :
    lib.also (.error ps : Except Problems (α → β)) (.ok a) = .error ps
  /-- a first one stops the values, -/
  also_first {α β : Type} (g : α → β) (qs : Problems) :
    lib.also (.ok g) (.error qs) = .error qs
  /-- and further ones come behind those before. -/
  also_further {α β : Type} (ps qs : Problems) :
    lib.also (.error ps : Except Problems (α → β)) (.error qs) = .error (ps ++ qs)

/-- The library that runs go by. -/
def Library.standard : Library where
  overlay upper lower := fun f => upper f <|> lower f
  also
    | .ok g, .ok a => .ok (g a)
    | .error ps, .ok _ => .error ps
    | .ok _, .error qs => .error qs
    | .error ps, .error qs => .error (ps ++ qs)

theorem Library.standard_lawful : standard.Lawful where
  overlay_some h := by simp [standard, h]
  overlay_none h := by simp [standard, h]
  also_values _ _ := rfl
  also_before _ _ := rfl
  also_first _ _ := rfl
  also_further _ _ := rfl

/-! ## Resolution -/

/-- The value of one field: its conversion, or the default. -/
def field {α : Type} (f : Field) (convert : Value → Except Issue α) (configured : α)
    (record : Record) : Except Problems α :=
  match record f with
  | some value => (convert value).mapError fun issue => [(f, issue)]
  | none => .ok configured

namespace Library

variable (lib : Library)

/-- **The settings of a record,** or every problem with them. -/
def ofRecord (record : Record) : Except Problems Settings :=
  let fields := Except.ok Settings.mk
  let fields := lib.also fields (field .logLevel toLevel default.logLevel record)
  let fields := lib.also fields (field .maxNestingDepth (toCount leastBound (some greatestBound))
    default.maxNestingDepth record)
  let fields := lib.also fields (field .derivativeStep toPositive default.derivativeStep record)
  let fields := lib.also fields
    (field .integrationIntervals (toCount 2 none) default.integrationIntervals record)
  let fields := lib.also fields (field .rootTolerance toPositive default.rootTolerance record)
  let fields := lib.also fields
    (field .rootMaxIterations (toCount 1 none) default.rootMaxIterations record)
  let fields := lib.also fields (field .limitStep toPositive default.limitStep record)
  let fields := lib.also fields (field .limitTolerance toPositive default.limitTolerance record)
  lib.also fields (field .extremumTolerance toPositive default.extremumTolerance record)

/-- The record of the sources, each over those after it. -/
def record (sources : Sources) : Record :=
  Source.all.foldr (fun source => lib.overlay fun f => sources.supplied? f source) fun _ => none

/-- **The settings that the sources give,** by a library. -/
def resolve (sources : Sources) : Except Problems Settings :=
  lib.ofRecord (lib.record sources)

end Library

/-- **The settings that the sources give.** -/
def resolve : Sources → Except Problems Settings :=
  Library.standard.resolve

end Settings

end Reckon
