import Reckon.Decimal.Basic
import Reckon.Number.Parts
/-!
# Number — the fewest digits that read back

The text of a double is made of the shortest decimal that reads as that
double. Each grid of one, two, up to seventeen digits has two points next
to the value; both are computed exactly, and the first grid with a point
that reads back wins. `toFloat_of_shortest?` says that what is found reads
back.
-/

namespace Reckon

namespace Number

/-- A positive rational number, as a numerator and a denominator. -/
structure Magnitude where
  num : Nat
  den : Nat

/-- The exact magnitude of a finite double. -/
def magnitude (v : Float) : Magnitude :=
  let p := parts v
  if p.exponent ≥ 0 then ⟨p.mantissa * Nat.pow 2 p.exponent.toNat, 1⟩
  else ⟨p.mantissa, Nat.pow 2 (-p.exponent).toNat⟩

/-- The number of decimal digits. -/
def digitCount (n : Nat) : Nat :=
  (Nat.toDigits 10 n).length

namespace Magnitude

/-- The position of the decimal point relative to the first digit: the `k`
with `10 ^ (k - 1) ≤ r < 10 ^ k`. -/
def point (r : Magnitude) : Int :=
  if r.den ≤ r.num then digitCount (r.num / r.den)
  else 1 - Int.ofNat (digitCount ((r.den - 1) / r.num))

/-- The quotient and the remainder of the magnitude by `10 ^ e`, the
remainder over the divisor that comes third. -/
def divPowerOfTen (r : Magnitude) (e : Int) : Nat × Nat × Nat :=
  let n := r.num * Nat.pow 10 (-e).toNat
  let d := r.den * Nat.pow 10 e.toNat
  (n / d, n % d, d)

/-- The two points of the grid of `count` digits next to the magnitude, the
nearer first; at equal distance the even one first. The grid starts at the
decimal point of the magnitude. -/
def neighbours (r : Magnitude) (point : Int) (count : Nat) : List Decimal :=
  let e := point - Int.ofNat count
  let (quotient, rest, divisor) := r.divPowerOfTen e
  let below : Decimal := ⟨quotient, e⟩
  let above : Decimal := ⟨quotient + 1, e⟩
  if 2 * rest < divisor ∨ (2 * rest = divisor ∧ quotient % 2 = 0) then [below, above]
  else [above, below]

/-- The whole magnitude in decimal digits; a denominator is a power of two. -/
def exact (r : Magnitude) : Decimal :=
  let places := Nat.log2 r.den
  ⟨r.num * Nat.pow 5 places, -(places : Int)⟩

end Magnitude

/-- The fewest digits, at most seventeen, that read as the double of this
magnitude. -/
def shortest? (v : Float) : Option Decimal :=
  let r := magnitude v
  let point := r.point
  (List.range 17).findSome? fun n =>
    (r.neighbours point (n + 1)).find? fun d => d.toFloat == v.abs

/-- The digits of a finite double that is not zero, without trailing zeros. -/
def shortest (v : Float) : Decimal :=
  ((shortest? v).getD (magnitude v).exact).normalize

/-- **What is found reads back.** -/
theorem toFloat_of_shortest? {v : Float} {d : Decimal} (h : shortest? v = some d) :
    (d.toFloat == v.abs) = true := by
  obtain ⟨n, -, hn⟩ := List.exists_of_findSome?_eq_some h
  simpa using List.find?_some hn

end Number

end Reckon
