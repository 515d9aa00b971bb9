import Reckon.Builtin
/-!
# Calculus — approaching a limit

A limit at a point where a function has no finite value: five samples with
shrinking steps on either side, of which the last two have to agree, and the
agreement of the two sides where both exist.
-/

namespace Reckon

namespace Calculus

/-- How many steps follow the first. -/
def refinements : Nat := 4

/-- Steps that each are a tenth of the one before. -/
def shrinking : (count : Nat) → Float → List Float
  | 0, _ => []
  | count + 1, h => h :: shrinking count (h / 10)

/-- The steps of an approach. Only the first one may be a whole number. -/
def steps? (first : Quantity) : Option (List Float) :=
  first.toFloat?.map fun h => h :: shrinking refinements first.tenth

/-- Whether two values agree, relative to the larger of them and to one. -/
def close (a b tolerance : Float) : Bool :=
  (a - b).abs ≤ tolerance * Variadic.max.extremal 1.0 [a.abs, b.abs]

/-- What one side shows: some sample without a finite value, samples that do
not settle, or a value. -/
inductive Side where
  | undefined
  | unsettled
  | settled (v : Float)

/-- Whether the last two of the samples agree, and on what. -/
def settle (tolerance : Float) : List Float → Side
  | last :: previous :: _ => if close last previous tolerance then .settled last else .unsettled
  | _ => .unsettled

variable {ε : Type}

/-- Samples in turn, the last one first, up to the first without a finite
value. A sample of `none` stands for a point outside the domain. -/
def finiteSamples (f : Float → Except ε (Option Float)) :
    (taken : List Float) → List Float → Except ε (Option (List Float))
  | taken, [] => .ok (some taken)
  | taken, x :: rest => do
    match ← f x with
    | some v => if v.isFinite then finiteSamples f (v :: taken) rest else return none
    | none => return none

/-- One side of `x`: the direction is `1` or `-1`. -/
def approach (f : Float → Except ε (Option Float)) (x direction : Float) (steps : List Float)
    (tolerance : Float) : Except ε Side := do
  let points := steps.map fun h => x + direction * h
  match ← finiteSamples f [] points with
  | some taken => return settle tolerance taken
  | none => return .undefined

/-- How a limit is decided. -/
inductive LimitSearch where
  /-- The function has a finite value at the point. -/
  | direct (v : Float)
  /-- The samples on some side do not settle. -/
  | diverges
  /-- What the two sides settle on, for a side that has a value. -/
  | sides (left right : Option Float)

/-- The value of a side. -/
def Side.value? : Side → Option Float
  | settled v => some v
  | _ => none

/-- **The search for a limit at `x`.** The left side is taken first, and a
side that does not settle ends the search. The steps are asked for once
there is no finite value at `x` itself. -/
def searchLimit (f : Float → Except ε (Option Float)) (x : Float)
    (steps : Except ε (List Float)) (tolerance : Float) : Except ε LimitSearch := do
  let here ← f x
  match here.filter Float.isFinite with
  | some v => return .direct v
  | none =>
    let steps ← steps
    match ← approach f x (-1) steps tolerance with
    | .unsettled => return .diverges
    | left =>
      match ← approach f x 1 steps tolerance with
      | .unsettled => return .diverges
      | right => return .sides left.value? right.value?

end Calculus

end Reckon
