import Reckon.Calculus.Approach
import Reckon.Calculus.Difference
import Reckon.Calculus.Error
import Reckon.Calculus.GoldenSection
import Reckon.Calculus.Newton
import Reckon.Calculus.Simpson
import Reckon.Evaluate
/-!
# Calculus — numerical methods on templates

Slopes, integrals, roots, limits and extrema of an expression in `x`. A
step, a tolerance or a count that is not given comes from the settings, and
so does the nesting bound under which a template is sampled. Root finding
and limits report events besides their result.
-/

namespace Reckon

namespace Calculus

/-- A sample of a template, under the nesting bound of the settings. -/
def sampler (standing : Settings.Standing) (template : String) (x : Float) : Except Error Float :=
  (evaluateAt (standing .maxNestingDepth) template x).mapError .sample

/-- A given or standing parameter, which has to be a positive number. -/
def positive (refusal : Quantity → Error) (given standing : Value) : Except Error Quantity := do
  let q ← (given.orElse standing).number.mapError .parameterNoNumber
  if q.atMost 0 then throw (refusal q) else return q

/-- The double of a parameter. -/
def double (q : Quantity) : Except Error Float :=
  (q.toFloat?.map .ok).getD (.error .tooLarge)

/-! ## Slopes and integrals -/

/-- **The slope of a template at a point,** by a central difference. -/
def derivative (standing : Settings.Standing) (template : String) (x : Float)
    (step : Value := .nothing) : Except Error Float := do
  let h ← positive .stepNotPositive step (standing .derivativeStep)
  let slope ← centralDifference (sampler standing template) x (← double h)
  let _ ← double h.twice
  return slope

/-- The integral over a number of parts that is no whole number: there is
none, unless the bounds are equal. The ends are sampled before this is
found out. -/
def integrateUncounted (f : Float → Except Error Float) (lower upper : Float) (kind : Kind) :
    Except Error Float := do
  if lower == upper then return 0
  let _ ← f lower
  let _ ← f upper
  throw (.noCount kind)

/-- **The integral of a template,** by Simpson's rule. -/
def integrate (standing : Settings.Standing) (template : String) (lower upper : Float)
    (intervals : Value := .nothing) : Except Error Float := do
  let n ← (intervals.orElse (standing .integrationIntervals)).number.mapError .intervalsNoNumber
  if n.lessThan 2 then throw .tooFewIntervals
  let f := sampler standing template
  match n.integer? with
  | none => integrateUncounted f lower upper n.kind
  | some count =>
    if lower != upper then
      let _ ← double (.whole (evenParts count.toNat))
    simpson f lower upper count.toNat

/-! ## Roots -/

/-- The result and the events of an iteration. -/
def RootSearch.report (template : String) (budget : Quantity) : RootSearch → Reported Error Float
  | found x iterations => ⟨.ok x, [.rootFound template x iterations]⟩
  | notFinite x => ⟨.error (.notFinite x), []⟩
  | flat x => ⟨.error (.flat x), []⟩
  | exhausted => ⟨.error (.noConvergence budget), []⟩

/-- The number of iterations that a budget stands for. -/
def iterations (budget : Quantity) : Except Error Nat :=
  match budget.integer? with
  | some n => .ok n.toNat
  | none => .error (.noCount budget.kind)

/-- **A root of a template,** by Newton's method with central differences
of the standing step for slopes. -/
def findRoot (standing : Settings.Standing) (template : String) (guess : Float := 0.0)
    (tolerance maxIterations : Value := .nothing) : Reported Error Float :=
  let search : Except Error (Reported Error Float) := do
    let tol ← positive .toleranceNotPositive tolerance (standing .rootTolerance)
    let budget ← positive .budgetNotPositive maxIterations (standing .rootMaxIterations)
    let slope (x : Float) := derivative standing template x
    let ended ← newton (sampler standing template) slope tol (← iterations budget) 0 guess
    return ended.report template budget
  match search with
  | .ok reported => reported
  | .error e => ⟨.error e, []⟩

/-! ## Limits -/

/-- A sample for a limit: a point outside the domain of the template has no
value there, and every other error stops the search. -/
def domainSampler (standing : Settings.Standing) (template : String) (x : Float) :
    Except Error (Option Float) :=
  match sampler standing template x with
  | .ok v => .ok (some v)
  | .error (.sample .divisionByZero) => .ok none
  | .error (.sample (.domain _)) => .ok none
  | .error e => .error e

/-- The limit that two sides make. -/
def merge (x tolerance : Float) : (left right : Option Float) → Except Error Float
  | none, none => .error (.undefinedAround x)
  | none, some right => .ok right
  | some left, none => .ok left
  | some left, some right =>
    if close left right tolerance then .ok ((left + right) / 2)
    else .error (.sidesDiffer x left right)

/-- The result and the events of a search for a limit. -/
def LimitSearch.report (template : String) (x tolerance : Float) :
    LimitSearch → Reported Error Float
  | direct v => ⟨.ok v, []⟩
  | diverges => ⟨.error (.diverges x), []⟩
  | sides left right => ⟨merge x tolerance left right, [.limitApproach template x left right]⟩

/-- Whether a search has compared samples. -/
def LimitSearch.compared : LimitSearch → Bool
  | direct _ => false
  | diverges => true
  | sides left right => left.isSome || right.isSome

/-- **The limit of a template at a point:** its value there where that is
finite, else what its two sides approach. -/
def limit (standing : Settings.Standing) (template : String) (x : Float)
    (step tolerance : Value := .nothing) : Reported Error Float :=
  let search : Except Error (Reported Error Float) := do
    let h ← positive .stepNotPositive step (standing .limitStep)
    let tol ← positive .toleranceNotPositive tolerance (standing .limitTolerance)
    let steps := ((steps? h).map .ok).getD (.error .tooLarge)
    let close := tol.toFloat?.getD Number.infinity
    let ended ← searchLimit (domainSampler standing template) x steps close
    if ended.compared then
      let _ ← double tol
    return ended.report template x close
  match search with
  | .ok reported => reported
  | .error e => ⟨.error e, []⟩

/-! ## Extrema -/

/-- The two kinds of extremum. -/
inductive Extremum where
  | minimum
  | maximum
deriving DecidableEq

namespace Extremum

/-- The word for a kind. -/
def word : Extremum → String
  | minimum => "min"
  | maximum => "max"

/-- The kind that a word names. -/
def ofWord (s : String) : Except Error Extremum :=
  if s = "min" then .ok minimum
  else if s = "max" then .ok maximum
  else .error (.unknownKind s)

/-- A maximum is searched as a minimum of the negated samples. -/
def sign {α : Type} [Neg α] [OfNat α 1] : Extremum → α
  | minimum => 1
  | maximum => -1

/-- The samples that a search makes as small as it can. -/
def rank {α : Type} [Mul α] [Neg α] [OfNat α 1] {m : Type → Type} [Monad m] (kind : Extremum)
    (f : α → m α) (x : α) : m α := do
  return kind.sign * (← f x)

end Extremum

/-- The inverse of the golden ratio. -/
def goldenRatio : Float :=
  (Float.sqrt 5 - 1) / 2

/-- The number of steps that shrink a bracket of a width to a tolerance. A
ratio of zero has no logarithm. -/
def stepCount (width : Float) (tolerance : Quantity) : Except Error Nat := do
  if tolerance.below width then
    let ratio := (← double tolerance) / width
    if ratio ≤ 0 then throw .vanishingTolerance
    return (Number.ceilInt (ratio.log / goldenRatio.log)).toNat
  else return 0

/-- The smaller of two bounds, the first where neither is. -/
def lesser {α : Type} [LT α] [DecidableLT α] (x y : α) : α := if y < x then y else x

/-- The greater of two bounds, the first where neither is. -/
def greater {α : Type} [LT α] [DecidableLT α] (x y : α) : α := if y > x then y else x

/-- **An extremum of a template on an interval,** by golden-section search:
where it is, and the value there. -/
def findExtremum (standing : Settings.Standing) (template : String) (lower upper : Float)
    (kind : String := "min") (tolerance : Value := .nothing) : Except Error (Float × Float) := do
  let kind ← Extremum.ofWord kind
  let tol ← positive .toleranceNotPositive tolerance (standing .extremumTolerance)
  let f := sampler standing template
  let a := lesser lower upper
  let b := greater lower upper
  goldenSection goldenRatio (kind.rank f) f (stepCount (b - a) tol) a b

end Calculus

end Reckon
