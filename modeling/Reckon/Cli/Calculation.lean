import Reckon.Calculus
import Reckon.Cli.Command
/-!
# Command line — calculations

What a command computes, with the parameters it was given, and how the
result is reported in a line.
-/

namespace Reckon

namespace Cli

/-- A parameter of a calculation. -/
inductive Parameter where
  | number (v : Float)
  | word (s : String)

/-- A calculation that has a result. The location is that of a root or an
extremum. -/
structure Calculation where
  operation : CommandName
  expression : String
  result : Float
  location : Option Float
  parameters : List (String × Parameter)

/-- Why a calculation has no result, or none that can be reported. -/
inductive Failure where
  | noResult (e : Calculus.Error)
  /-- A parameter that no double holds. -/
  | parameterNoDouble
deriving DecidableEq

/-- A value as a parameter, where a double holds it. -/
def Parameter.ofValue (v : Value) : Except Failure Parameter :=
  match v.number.toOption.bind Quantity.toFloat? with
  | some x => .ok (number x)
  | none => .error .parameterNoDouble

/-- **Computes a command,** where it computes anything: with the configured
steps, tolerances and counts, and with the standing settings for all that a
method reads by itself. -/
def Command.compute (standing configured : Settings.Standing) :
    Command → Option (Except Failure Calculation)
  | .eval expression => some do
    let bound := (configured .maxNestingDepth).orElse (standing .maxNestingDepth)
    let result ← (evaluate bound expression).mapError (.noResult ∘ .sample)
    return ⟨.eval, expression, result, none, []⟩
  | .functions => none
  | .derivative template point => some do
    let result ← (Calculus.derivative standing template point
      (configured .derivativeStep)).mapError .noResult
    return ⟨.derivative, template, result, none, [("at", .number point)]⟩
  | .integrate template lower upper intervals => some do
    let n := (intervals.map Value.whole).getD (configured .integrationIntervals)
    let result ← (Calculus.integrate standing template lower upper n).mapError .noResult
    return ⟨.integrate, template, result, none,
      [("lower", .number lower), ("upper", .number upper),
        ("intervals", ← Parameter.ofValue (n.orElse (standing .integrationIntervals)))]⟩
  | .root template guess => some do
    let x ← (Calculus.findRoot standing template guess (configured .rootTolerance)
      (configured .rootMaxIterations)).outcome.mapError .noResult
    return ⟨.root, template, x, some x, [("guess", .number guess)]⟩
  | .limit template point => some do
    let result ← (Calculus.limit standing template point (configured .limitStep)
      (configured .limitTolerance)).outcome.mapError .noResult
    return ⟨.limit, template, result, none, [("at", .number point)]⟩
  | .extremum template lower upper kind => some do
    let (x, result) ← (Calculus.findExtremum standing template lower upper kind.word
      (configured .extremumTolerance)).mapError .noResult
    return ⟨.extremum, template, result, some x,
      [("lower", .number lower), ("upper", .number upper), ("kind", .word kind.word)]⟩

/-- **The events that a command reports** while it is computed. -/
def Command.events (standing configured : Settings.Standing) : Command → List Event
  | .eval expression =>
    (evaluateReported standing expression (configured .maxNestingDepth)).events
  | .root template guess =>
    (Calculus.findRoot standing template guess (configured .rootTolerance)
      (configured .rootMaxIterations)).events
  | .limit template point =>
    (Calculus.limit standing template point (configured .limitStep)
      (configured .limitTolerance)).events
  | .functions | .derivative .. | .integrate .. | .extremum .. => []

/-- The word for a command with a capital. -/
def CommandName.label (name : CommandName) : String :=
  match name.word.toList with
  | c :: rest => String.ofList (c.toUpper :: rest)
  | [] => ""

/-- The line that reports a calculation. -/
def Calculation.line (c : Calculation) : String :=
  let place := match c.operation, c.location with
    | .extremum, some x => " at x = " ++ Number.resultText x
    | _, _ => ""
  c.operation.label ++ " Result: " ++ Number.resultText c.result ++ place

end Cli

end Reckon
