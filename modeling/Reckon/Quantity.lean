import Reckon.Number.Rounding
import Reckon.Number.Text
/-!
# Quantity — numbers as they are given

A parameter may be given as a whole number of any size, as a real one, or
as a truth value, which counts as zero or one. Comparisons with a double
are exact, and only where arithmetic needs a double a whole number is
rounded to one.
-/

namespace Reckon

/-- A number as it was given. -/
inductive Quantity where
  | truth (b : Bool)
  | whole (n : Int)
  | real (v : Float)
deriving DecidableEq

namespace Quantity

/-- The integer that a quantity is given as, if it is no real number. -/
def integer? : Quantity → Option Int
  | truth b => some (if b then 1 else 0)
  | whole n => some n
  | real _ => none

/-- The text of a quantity, by the way it was given. -/
def text : Quantity → String
  | truth b => if b then "True" else "False"
  | whole n => toString n
  | real v => Number.text v

/-- The nearest double, where there is one. -/
def toFloat? : Quantity → Option Float
  | real v => some v
  | truth b => some (if b then 1 else 0)
  | whole n => if (Float.ofInt n).isFinite then some (Float.ofInt n) else none

/-- Whether a double lies below a quantity. -/
def above (q : Quantity) (v : Float) : Bool :=
  match q.integer?, q with
  | some n, _ => if v.isFinite then Number.floorInt v < n else v < 0
  | none, real w => v < w
  | none, _ => false

/-- Whether a double lies above a quantity. -/
def below (q : Quantity) (v : Float) : Bool :=
  match q.integer?, q with
  | some n, _ => if v.isFinite then n < Number.ceilInt v else 0 < v
  | none, real w => w < v
  | none, _ => false

/-- Whether a quantity is at least an integer. -/
def atLeast (q : Quantity) (n : Int) : Bool :=
  match q with
  | real v => Float.ofInt n ≤ v
  | truth b => n ≤ if b then 1 else 0
  | whole m => n ≤ m

/-- Whether a quantity is less than an integer. -/
def lessThan (q : Quantity) (n : Int) : Bool :=
  match q with
  | real v => v < Float.ofInt n
  | truth b => (if b then 1 else 0) < n
  | whole m => m < n

/-- Whether a quantity is at most an integer. -/
def atMost (q : Quantity) (n : Int) : Bool :=
  match q with
  | real v => v ≤ Float.ofInt n
  | truth b => (if b then 1 else 0) ≤ n
  | whole m => m ≤ n

/-- Twice a quantity. -/
def twice (q : Quantity) : Quantity :=
  match q.integer?, q with
  | some n, _ => whole (2 * n)
  | none, real v => real (2 * v)
  | none, q => q

/-- A tenth of a quantity that is not negative, as the nearest double. -/
def tenth (q : Quantity) : Float :=
  match q.integer?, q with
  | some n, _ => (⟨n.natAbs, -1⟩ : Decimal).toFloat
  | none, real v => v / 10
  | none, _ => 0

/-- The integer part of a quantity that is finite. -/
def floor : Quantity → Int
  | truth b => if b then 1 else 0
  | whole n => n
  | real v => Number.floorInt v

end Quantity

end Reckon
