/-!
# Decimal — unsigned decimal numbers

A decimal is `significand · 10 ^ exponent`. Two decimals of one value have
one normal form, without trailing zeros (`normalize`), and `toFloat` rounds
that normal form to the nearest double, so equal decimals always read as
the same double.
-/

namespace Reckon

/-- The unsigned number `significand · 10 ^ exponent`. -/
structure Decimal where
  significand : Nat
  exponent : Int
deriving DecidableEq, Inhabited

namespace Decimal

/-- The digits of the significand, most significant first. -/
def digits (d : Decimal) : List Char :=
  Nat.toDigits 10 d.significand

/-- Moves trailing zeros of the significand into the exponent, at most
`limit` of them. -/
def stripZeros : (limit significand : Nat) → (exponent : Int) → Decimal
  | 0, m, e => ⟨m, e⟩
  | limit + 1, m, e => if m % 10 = 0 then stripZeros limit (m / 10) (e + 1) else ⟨m, e⟩

/-- The same number with no trailing zero in its significand; zero is
`0 · 10 ^ 0`. A number below `2 ^ k` has fewer than `k` trailing zeros. -/
def normalize (d : Decimal) : Decimal :=
  if d.significand = 0 then ⟨0, 0⟩
  else stripZeros d.significand.log2 d.significand d.exponent

/-- The double next to a positive decimal whose exponent may be of any
size. Ten lies between `2 ^ 3` and `2 ^ 4`, so a number far beyond the
range of the doubles is told by its binary size and needs no digits. -/
def roundPositive (d : Decimal) : Float :=
  let size := d.significand.log2 + 3 * d.exponent
  if d.exponent ≥ 0 ∧ size > 1100 then 1.0 / 0.0
  else if d.exponent < 0 ∧ size < -1100 then 0.0
  else Float.ofScientific d.significand (d.exponent < 0) d.exponent.natAbs

/-- The nearest double, ties to the even one; too large a number is infinite. -/
def toFloat (d : Decimal) : Float :=
  let n := d.normalize
  if n.significand = 0 then 0.0 else n.roundPositive

end Decimal

end Reckon
