import Reckon.Decimal.Basic
/-!
# Decimal — numeric literals

The written form of an unsigned decimal number: digits with at most one
point among them and at least one digit, then an exponent where `e` is
followed by digits, with or without a sign. `exponentPart` is what a
scanner takes as the exponent, `ofLiteral?` reads the whole literal.
-/

namespace Reckon

namespace Decimal

/-- A decimal digit of ASCII. -/
def isDigit (c : Char) : Bool := '0' ≤ c && c ≤ '9'

/-- The number that digits write. -/
def natOfDigits (digits : List Char) : Nat :=
  Nat.ofDigitChars 10 digits 0

/-- The sign that may open an exponent, and what follows it. -/
def splitSign : List Char → List Char × List Char
  | '+' :: rest => (['+'], rest)
  | '-' :: rest => (['-'], rest)
  | rest => ([], rest)

/-- The exponent at the start of a text, `e` or `E`, a sign where there is
one, and all the digits that follow. Without a digit there is no exponent,
and the `e` is left for what comes next. -/
def exponentPart : List Char → List Char
  | [] => []
  | c :: rest =>
    if c = 'e' ∨ c = 'E' then
      let (sign, rest) := splitSign rest
      match rest.takeWhile isDigit with
      | [] => []
      | digits => c :: sign ++ digits
    else []

/-- The exponent that a whole text writes, zero for no text. -/
def exponent? : List Char → Option Int
  | [] => some 0
  | c :: rest =>
    let (sign, digits) := splitSign rest
    if (c = 'e' ∨ c = 'E') ∧ digits ≠ [] ∧ digits.all isDigit then
      let e := Int.ofNat (natOfDigits digits)
      some (if sign = ['-'] then -e else e)
    else none

/-- The fraction digits after a point, and what follows them. -/
def splitFraction : List Char → List Char × List Char
  | '.' :: rest => (rest.takeWhile isDigit, rest.dropWhile isDigit)
  | rest => ([], rest)

/-- **The decimal that a literal writes.** -/
def ofLiteral? (s : List Char) : Option Decimal :=
  let whole := s.takeWhile isDigit
  let (fraction, rest) := splitFraction (s.dropWhile isDigit)
  if whole = [] ∧ fraction = [] then none
  else (exponent? rest).map fun e =>
    ⟨natOfDigits (whole ++ fraction), e - Int.ofNat fraction.length⟩

/-- The finite double that a literal writes. -/
def readFinite? (s : List Char) : Option Float :=
  match ofLiteral? s with
  | some d => if d.toFloat.isFinite then some d.toFloat else none
  | none => none

end Decimal

end Reckon
