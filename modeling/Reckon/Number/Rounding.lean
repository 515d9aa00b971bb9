import Reckon.Number.Parts
/-!
# Number — rounding to an integer

The integer below and above a double, exact at every magnitude, and the
double of that integer. A double that is not finite is left as it is. A
rounded value is an integer before it is a double again, so it is never
the negative zero.
-/

namespace Reckon

namespace Number

/-- The greatest integer that is at most the finite double `v`. -/
def floorInt (v : Float) : Int :=
  let p := parts v
  if p.exponent ≥ 0 then p.signed * Int.pow 2 p.exponent.toNat
  else p.signed / Int.pow 2 (-p.exponent).toNat

/-- The least integer that is at least the finite double `v`. -/
def ceilInt (v : Float) : Int :=
  let p := parts v
  if p.exponent ≥ 0 then p.signed * Int.pow 2 p.exponent.toNat
  else -(-p.signed / Int.pow 2 (-p.exponent).toNat)

/-- The integer part of the finite double `v`, toward zero. -/
def truncInt (v : Float) : Int :=
  if isNegative v then ceilInt v else floorInt v

/-- Whether a double is an integer: it is finite, and no bit of its mantissa stands for a
fraction. -/
def isInteger (v : Float) : Bool :=
  let p := parts v
  v.isFinite && (0 ≤ p.exponent || p.mantissa % Nat.pow 2 (-p.exponent).toNat == 0)

/-- The nearest integer, with a half going up. The distance to the integer
below is the double that the subtraction gives. -/
def roundHalfUpInt (v : Float) : Int :=
  let below := floorInt v
  if v - Float.ofInt below ≥ 0.5 then below + 1 else below

/-- Applies an integer rounding to a finite double. -/
def rounded (toInt : Float → Int) (v : Float) : Float :=
  if v.isFinite then Float.ofInt (toInt v) else v

/-- Rounds toward negative infinity. -/
def floor : Float → Float := rounded floorInt

/-- Rounds toward positive infinity. -/
def ceil : Float → Float := rounded ceilInt

/-- Rounds to the nearest integer, halves toward positive infinity. -/
def round : Float → Float := rounded roundHalfUpInt

end Number

end Reckon
