/-!
# Number — the exact value of a double

A finite double is `± mantissa · 2 ^ exponent` for integers, read off its
bits. Everything that has to be exact (printing, rounding to an integer,
the remainder) is computed on these parts in integer arithmetic.
-/

namespace Reckon

namespace Number

/-- The number `± mantissa · 2 ^ exponent`. -/
structure Parts where
  negative : Bool
  mantissa : Nat
  exponent : Int
deriving DecidableEq

/-- Whether the sign bit is set, also of a zero. -/
def isNegative (v : Float) : Bool :=
  v.toBits >>> 63 == 1

/-- The parts of a finite double. Infinities and NaN have none of their
own and read as if the exponent range went on. -/
def parts (v : Float) : Parts :=
  let bits := v.toBits.toNat
  let biased : Nat := bits / Nat.pow 2 52 % Nat.pow 2 11
  let fraction : Nat := bits % Nat.pow 2 52
  if biased = 0 then ⟨isNegative v, fraction, -1074⟩
  else ⟨isNegative v, fraction + Nat.pow 2 52, Int.ofNat biased - 1075⟩

/-- The double `2 ^ e`, for an exponent in the range of the doubles. -/
def powerOfTwo (e : Int) : Float :=
  if e < -1022 then Float.ofBits (UInt64.ofNat (Nat.pow 2 (e + 1074).toNat))
  else Float.ofBits (UInt64.ofNat ((e + 1023).toNat * Nat.pow 2 52))

/-- The double with these parts, for a mantissa below `2 ^ 53` and an
exponent in the range of the doubles; the product is then exact. -/
def Parts.toFloat (p : Parts) : Float :=
  let magnitude := Float.ofNat p.mantissa * powerOfTwo p.exponent
  if p.negative then -magnitude else magnitude

/-- The signed mantissa. -/
def Parts.signed (p : Parts) : Int :=
  if p.negative then -(p.mantissa : Int) else p.mantissa

end Number

end Reckon
