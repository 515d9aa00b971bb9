import Reckon.Error
/-!
# Calculus — why a numerical method has no result

The causes that stop a method: a parameter that is refused, a method that
comes to no result, or an error of the expression at some sample.
-/

namespace Reckon

namespace Calculus

/-- Why a method has no result. -/
inductive Error where
  /-- The expression has no value at a sample. -/
  | sample (e : Reckon.Error)
  /-- A step that is not positive. -/
  | stepNotPositive (got : Quantity)
  /-- A tolerance that is not positive. -/
  | toleranceNotPositive (got : Quantity)
  /-- A budget of iterations that is not positive. -/
  | budgetNotPositive (got : Quantity)
  /-- A step, a tolerance or a budget that is no number. -/
  | parameterNoNumber (got : Kind)
  /-- A budget or a number of parts that is no whole number. -/
  | noCount (got : Kind)
  /-- A number of parts that is no number. -/
  | intervalsNoNumber (got : Kind)
  /-- A whole number beyond the range of the doubles. -/
  | tooLarge
  /-- Fewer than two parts of an interval. -/
  | tooFewIntervals
  /-- A word that names neither extremum. -/
  | unknownKind (word : String)
  /-- A tolerance that vanishes beside the width of the interval. -/
  | vanishingTolerance
  /-- An iterate without a finite value. -/
  | notFinite (x : Float)
  /-- An iterate without a slope to follow. -/
  | flat (x : Float)
  /-- A budget of iterations that is spent. -/
  | noConvergence (budget : Quantity)
  /-- Samples that do not settle on one side of a point. -/
  | diverges (x : Float)
  /-- No value on either side of a point. -/
  | undefinedAround (x : Float)
  /-- Two sides that settle on different values. -/
  | sidesDiffer (x left right : Float)
deriving DecidableEq

/-- The wording of an error. -/
def Error.message : Error → String
  | sample e => e.message
  | stepNotPositive got => "step must be positive, got " ++ got.text
  | toleranceNotPositive got => "tolerance must be positive, got " ++ got.text
  | budgetNotPositive got => "max_iterations must be positive, got " ++ got.text
  | parameterNoNumber got =>
    "'<=' not supported between instances of '" ++ got.name ++ "' and 'int'"
  | noCount got => "'" ++ got.name ++ "' object cannot be interpreted as an integer"
  | intervalsNoNumber got =>
    "'<' not supported between instances of '" ++ got.name ++ "' and 'int'"
  | tooLarge => "int too large to convert to float"
  | tooFewIntervals => "At least 2 intervals are required"
  | unknownKind word => "kind must be 'min' or 'max', got " ++ Text.quoted word
  | vanishingTolerance => "math domain error"
  | notFinite x => "Function is not finite at x = " ++ Number.text x
  | flat x => "Derivative vanished at x = " ++ Number.text x
  | noConvergence budget =>
    "Root finding did not converge after " ++ budget.text ++ " iterations"
  | diverges x => "Function diverges as x approaches " ++ Number.text x
  | undefinedAround x => "Function is undefined around x = " ++ Number.text x
  | sidesDiffer x left right =>
    "Left and right limits differ at x = " ++ Number.text x ++ ": " ++ Number.text left ++
      " vs " ++ Number.text right

/-- Whether an error breaks a run off, where others are reported: a parameter
is no number, or no double holds it. -/
def Error.breaksOff : Error → Bool
  | sample e => e.breaksOff
  | parameterNoNumber _ | noCount _ | intervalsNoNumber _ | tooLarge => true
  | _ => false

end Calculus

end Reckon
