import Reckon.Number.Rounding
import Reckon.Number.Shortest
/-!
# Number — the text of a double

How digits become text: where positional notation ends, what is written
after the last digit, and the form of an exponent. `text` writes the fewest
digits that read back, `general` at most six significant digits.
-/

namespace Reckon

namespace Number

/-- The form of a number text: the decimal exponents that are written
positionally, from `low` up to but without `high`, whether a whole number
keeps a point, and whether an exponent has a sign and two digits at least. -/
structure Layout where
  low : Int
  high : Int
  keepPoint : Bool
  wideExponent : Bool

/-- Positional from `0.0001` up to sixteen digits before the point, and
always with a digit after the point. -/
def Layout.full : Layout := ⟨-4, 16, true, true⟩

/-- Positional from `0.0001` up to six digits, without a needless point. -/
def Layout.general : Layout := ⟨-4, 6, false, true⟩

/-- Positional from `0.00001`, with the shortest exponents. -/
def Layout.compact : Layout := ⟨-5, 16, true, false⟩

/-- So many zeros. -/
def zeros (n : Nat) : List Char := List.replicate n '0'

/-- The digits with a decimal point after the first `point` of them, filled
up with zeros on either side. -/
def positional (keepPoint : Bool) (digits : List Char) (point : Int) : List Char :=
  if point ≤ 0 then '0' :: '.' :: zeros (-point).toNat ++ digits
  else
    let whole := point.toNat
    if digits.length ≤ whole then
      digits ++ zeros (whole - digits.length) ++ (if keepPoint then ['.', '0'] else [])
    else digits.take whole ++ '.' :: digits.drop whole

/-- The exponent, wide with its sign and at least two digits. -/
def exponentText (wide : Bool) (e : Int) : List Char :=
  let digits := Nat.toDigits 10 e.natAbs
  let sign : List Char := if e < 0 then ['-'] else if wide then ['+'] else []
  sign ++ (if wide then zeros (2 - digits.length) else []) ++ digits

/-- The digits as one digit, a fraction where there is one, and an exponent. -/
def scientific (wide : Bool) (digits : List Char) (e : Int) : List Char :=
  match digits with
  | [] => []
  | first :: [] => first :: 'e' :: exponentText wide e
  | first :: rest => first :: '.' :: rest ++ 'e' :: exponentText wide e

/-- The text of a decimal without trailing zeros. -/
def Layout.render (layout : Layout) (d : Decimal) : List Char :=
  let digits := d.digits
  let e := d.exponent + Int.ofNat digits.length - 1
  if layout.low ≤ e ∧ e < layout.high then positional layout.keepPoint digits (e + 1)
  else scientific layout.wideExponent digits e

/-- The text of a double under a layout and a choice of digits for one that
is finite and not zero. NaN has no sign. -/
def render (layout : Layout) (digits : Float → Decimal) (v : Float) : String :=
  if v.isNaN then "nan"
  else
    let magnitude : List Char :=
      if v.isInf then ['i', 'n', 'f']
      else if v == 0 then '0' :: (if layout.keepPoint then ['.', '0'] else [])
      else layout.render (digits v)
    String.ofList (if isNegative v then '-' :: magnitude else magnitude)

/-- **The text of a double:** the fewest digits that read back. -/
def text (v : Float) : String :=
  render .full shortest v

/-- The nearest decimal of six significant digits, ties to the even digit. -/
def sixDigits (v : Float) : Decimal :=
  match (magnitude v).neighbours (magnitude v).point 6 with
  | [] => ⟨0, 0⟩
  | nearest :: _ => nearest.normalize

/-- The short text of a double: at most six significant digits. -/
def general (v : Float) : String :=
  render .general sixDigits v

/-! ## Whole numbers -/

/-- Below this magnitude a whole number is written without a point. -/
def wholeLimit : Float := 1e15

/-- The integer that a double is, for one below the limit. -/
def whole? (v : Float) : Option Int :=
  if isInteger v && v.abs < wholeLimit then some (truncInt v) else none

/-- **The text of a result:** a whole number without a point, any other
number by the fewest digits that read back. -/
def resultText (v : Float) : String :=
  match whole? v with
  | some n => toString n
  | none => text v

end Number

end Reckon
