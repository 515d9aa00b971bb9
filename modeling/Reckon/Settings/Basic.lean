import Reckon.Error
/-!
# Settings — the settings of a run

What may be configured: the level of the log, the nesting bound, and the
steps, counts and tolerances of the numerical methods. `Settings` has one
value of the right kind for each field; a run goes by `Standing` settings,
which nothing checks again where they are assigned.
-/

namespace Reckon

/-- The settings of a run. -/
structure Settings where
  logLevel : String := "WARNING"
  maxNestingDepth : Int := 100
  derivativeStep : Float := 1e-5
  integrationIntervals : Int := 1000
  rootTolerance : Float := 1e-10
  rootMaxIterations : Int := 100
  limitStep : Float := 1e-3
  limitTolerance : Float := 1e-6
  extremumTolerance : Float := 1e-8

namespace Settings

/-- The settings where nothing is configured. -/
def default : Settings := {}

/-- The fields of the settings, in the order in which they are declared. -/
inductive Field where
  | logLevel
  | maxNestingDepth
  | derivativeStep
  | integrationIntervals
  | rootTolerance
  | rootMaxIterations
  | limitStep
  | limitTolerance
  | extremumTolerance
deriving DecidableEq

namespace Field

/-- The fields in order. -/
def all : List Field :=
  [logLevel, maxNestingDepth, derivativeStep, integrationIntervals, rootTolerance,
    rootMaxIterations, limitStep, limitTolerance, extremumTolerance]

/-- The name of a field in a settings file. -/
def name : Field → String
  | logLevel => "log_level"
  | maxNestingDepth => "max_nesting_depth"
  | derivativeStep => "derivative_step"
  | integrationIntervals => "integration_intervals"
  | rootTolerance => "root_tolerance"
  | rootMaxIterations => "root_max_iterations"
  | limitStep => "limit_step"
  | limitTolerance => "limit_tolerance"
  | extremumTolerance => "extremum_tolerance"

/-- The field of a name. -/
def ofName? (s : String) : Option Field :=
  all.find? (·.name = s)

/-- Names name fields. -/
theorem ofName?_name (f : Field) : ofName? f.name = some f := by
  cases f <;> decide

end Field

/-- The settings that a run goes by: a value for each field. They start as
settings of their own, and may be assigned anything. -/
abbrev Standing := Field → Value

/-- Settings as the values of their fields. -/
def standing (s : Settings) : Standing
  | .logLevel => .text s.logLevel
  | .maxNestingDepth => .whole s.maxNestingDepth
  | .derivativeStep => .real s.derivativeStep
  | .integrationIntervals => .whole s.integrationIntervals
  | .rootTolerance => .real s.rootTolerance
  | .rootMaxIterations => .whole s.rootMaxIterations
  | .limitStep => .real s.limitStep
  | .limitTolerance => .real s.limitTolerance
  | .extremumTolerance => .real s.extremumTolerance

namespace Standing

/-- Assigns a field without looking at the value. -/
def assign (s : Standing) (f : Field) (v : Value) : Standing :=
  fun g => if g = f then v else s g

/-- Why a name cannot be assigned. -/
inductive Unassignable where
  /-- The name is no field. -/
  | noField (name : String)
  /-- The name is of what follows from the fields. -/
  | readOnly (name : String)
deriving DecidableEq

/-- What is said of a name that cannot be assigned. -/
def Unassignable.message : Unassignable → String
  | noField name => "\"Settings\" object has no field \"" ++ name ++ "\""
  | readOnly name => "property '" ++ name ++ "' of 'Settings' object has no setter"

/-- The names of what follows from the fields. -/
def readOnlyNames : List String :=
  ["model_extra", "model_fields_set", "__fields_set__"]

/-- Assigns the field of a name. A name that starts with an underscore is
private, and no field changes for it. -/
def set (s : Standing) (name : String) (v : Value) : Except Unassignable Standing :=
  match Field.ofName? name with
  | some f => .ok (s.assign f v)
  | none =>
    if name ∈ readOnlyNames then .error (.readOnly name)
    else if name.toList.head? = some '_' then .ok s
    else .error (.noField name)

end Standing

end Settings

end Reckon
