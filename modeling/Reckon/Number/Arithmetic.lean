import Reckon.Number.Parts
/-!
# Number — remainder and power

The two operations of expressions that a processor has no single
instruction for. The remainder is exact and takes the sign of the dividend;
the power follows the IEEE rules, and what they leave undefined is NaN.
-/

namespace Reckon

namespace Number

/-- The NaN of the results that are not defined. -/
def nan : Float := 0.0 / 0.0

/-- Positive infinity. -/
def infinity : Float := 1.0 / 0.0

/-- The remainder of two exact magnitudes, over their smaller exponent. -/
def Parts.remainder (p q : Parts) : Parts :=
  let e := min p.exponent q.exponent
  let scaled (r : Parts) := r.mantissa * Nat.pow 2 (r.exponent - e).toNat
  ⟨p.negative, scaled p % scaled q, e⟩

/-- **The remainder of a division truncated toward zero**, exact, with the
sign of the dividend: `-7` by `3` leaves `-1`. It is NaN for an infinite
dividend and for a divisor of zero. -/
def remainder (left right : Float) : Float :=
  if left.isNaN || right.isNaN || left.isInf || right == 0 then nan
  else if right.isInf then left
  else ((parts left).remainder (parts right)).toFloat

/-- **Real exponentiation.** Where the real power does not exist (a negative
base under a fractional exponent) the result is NaN; overflow and a zero
base under a negative exponent are infinite, with the sign of the base for
an odd exponent. -/
def power (base exponent : Float) : Float :=
  base.pow exponent

end Number

end Reckon
