import Reckon.Decimal.Literal
import Reckon.Number.Arithmetic
import Reckon.Text.Blank
/-!
# Number — reading a number text

What a command line or a settings file may write for a number. A real
number is a literal or a word for infinity or NaN, with a sign and blanks
around it; a whole number has no leading zeros. Either may have single
underscores among its characters, and a whole number zeros before and after
it, but then the text is read in a second attempt, with rules of its own.
`ofText?` reads real numbers and `wholeOfText` whole ones.
-/

namespace Reckon

namespace Number

/-- A sign at the start, as whether it is a minus, and what follows it. -/
def splitMinus : List Char → Bool × List Char
  | '+' :: rest => (false, rest)
  | '-' :: rest => (true, rest)
  | rest => (false, rest)

/-! ## Underscores -/

/-- Whether an underscore comes right after another one. -/
def hasDoubleUnderscore : List Char → Bool
  | '_' :: '_' :: _ => true
  | _ :: rest => hasDoubleUnderscore rest
  | [] => false

/-- The text without its underscores, where it has some, and none of them
stands at an end or beside another one. -/
def withoutUnderscores? (s : List Char) : Option (List Char) :=
  if s.head? = some '_' ∨ s.getLast? = some '_' ∨ '_' ∉ s ∨ hasDoubleUnderscore s then none
  else some (s.filter (· ≠ '_'))

/-! ## Real numbers -/

/-- The text in lower case, for the letters of ASCII. -/
def lowered (s : List Char) : List Char :=
  s.map Char.toLower

/-- The number without a sign that a text writes. -/
def unsigned? (s : List Char) : Option Float :=
  let word := String.ofList (lowered s)
  if word = "inf" ∨ word = "infinity" then some infinity
  else if word = "nan" then some nan
  else (Decimal.ofLiteral? s).map Decimal.toFloat

/-- The number that a text without blanks and underscores writes. -/
def signed? (s : List Char) : Option Float :=
  let (minus, rest) := splitMinus s
  (unsigned? rest).map fun v => if minus then -v else v

/-- **The double that a text writes.** A text with blanks at its ends has no
underscores. -/
def ofText? (s : String) : Option Float :=
  signed? (Text.trim Text.isSpace s.toList) <|> (withoutUnderscores? s.toList).bind signed?

/-! ## Whole numbers -/

/-- Why a text writes no whole number. -/
inductive NotWhole where
  | malformed
  | tooLong
deriving DecidableEq

/-- The number of characters, with the minus, that a whole number may have. -/
def wholeLength : Nat := 4300

/-- A whole number in its strict form: a minus where there is one, and
digits without a leading zero. -/
def strictWhole (s : List Char) : Except NotWhole Int :=
  let (minus, digits) : Bool × List Char := match s with
    | '-' :: digits => (true, digits)
    | digits => (false, digits)
  let run := digits.takeWhile Decimal.isDigit
  if run = [] then .error .malformed
  else if run.head? = some '0' then if digits = ['0'] then .ok 0 else .error .malformed
  else if wholeLength < s.length - digits.length + run.length then .error .tooLong
  else if run = digits then
    let n := Int.ofNat (Decimal.natOfDigits digits)
    .ok (if minus then -n else n)
  else .error .malformed

/-- What follows leading zeros, of which underscores may follow the first.
One zero is kept before a point and where there is nothing else. -/
def afterZeros? : (last : Char) → List Char → Option (List Char)
  | last, [] => some [last]
  | last, c :: rest =>
    if c = '0' ∨ c = '_' then afterZeros? c rest
    else if c = '.' then some (last :: c :: rest)
    else if Decimal.isDigit c then some (c :: rest)
    else none

/-- The text without leading zeros, where it starts like a number. -/
def withoutZeros? : List Char → Option (List Char)
  | [] => none
  | c :: rest =>
    if c = '0' then afterZeros? c rest
    else if Decimal.isDigit c ∨ c = '-' then some (c :: rest)
    else none

/-- The text without a point and the zeros after it, where nothing else
follows the point. -/
def withoutZeroFraction (s : List Char) : List Char :=
  match s.dropWhile (· ≠ '.') with
  | '.' :: fraction =>
    if fraction ≠ [] ∧ fraction.all (· = '0') then s.takeWhile (· ≠ '.') else s
  | _ => s

/-- The text without a plus that no minus follows. -/
def withoutPlus : List Char → List Char
  | '+' :: rest => if rest.head? = some '-' then '+' :: rest else rest
  | s => s

/-- The strict form that a lenient text stands for. -/
def strictForm? (s : List Char) : Option (List Char) := do
  let s ← withoutZeros? (withoutPlus (Text.trim Text.isSpace s))
  let s := withoutZeroFraction s
  return (withoutUnderscores? s).getD s

/-- **The whole number that a text writes,** in its strict form or leniently. -/
def wholeOfText (s : String) : Except NotWhole Int :=
  match strictWhole s.toList with
  | .ok n => .ok n
  | .error .tooLong => .error .tooLong
  | .error .malformed =>
    match strictForm? s.toList with
    | some form => (strictWhole form).mapError fun _ => .malformed
    | none => .error .malformed

end Number

end Reckon
