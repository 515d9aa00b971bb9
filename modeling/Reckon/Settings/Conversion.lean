import Reckon.Number.Read
import Reckon.Number.Rounding
import Reckon.Settings.Basic
import Reckon.Text.Letter
/-!
# Settings — from values to fields

A source may give any value for a field. A whole-number field takes whole
numbers in its range, a real field takes what is above zero, and the level
takes five words; each refuses the rest with an issue of its own. Texts are
read as numbers by both, and so are bytes.
-/

namespace Reckon

namespace Settings

/-- Why a value is refused. -/
inductive Issue where
  | literalError
  | intType
  | intParsing
  | intFromFloat
  | intParsingSize
  | finiteNumber
  | floatType
  | floatParsing
  | greaterThan
  | greaterThanEqual
  | lessThanEqual
  | stringUnicode
deriving DecidableEq

/-- The word for an issue. -/
def Issue.name : Issue → String
  | literalError => "literal_error"
  | intType => "int_type"
  | intParsing => "int_parsing"
  | intFromFloat => "int_from_float"
  | intParsingSize => "int_parsing_size"
  | finiteNumber => "finite_number"
  | floatType => "float_type"
  | floatParsing => "float_parsing"
  | greaterThan => "greater_than"
  | greaterThanEqual => "greater_than_equal"
  | lessThanEqual => "less_than_equal"
  | stringUnicode => "string_unicode"

/-! ## Conversions -/

/-- A whole number that is written as a real one. -/
def wholeOfReal (v : Float) : Except Issue Int :=
  if !v.isFinite then .error .finiteNumber
  else
    let n := Number.truncInt v
    if Float.ofInt n != v then .error .intFromFloat
    else if n.natAbs < Nat.pow 2 63 then .ok n
    else .error .intParsingSize

/-- The issue of a text that writes no whole number. -/
def Issue.ofNotWhole : Number.NotWhole → Issue
  | .malformed => intParsing
  | .tooLong => intParsingSize

/-- A text as a whole number. -/
def wholeOfText (s : String) : Except Issue Int :=
  (Number.wholeOfText s).mapError Issue.ofNotWhole

/-- A text as a real number. -/
def realOfText (s : String) : Except Issue Float :=
  ((Number.ofText? s).map .ok).getD (.error .floatParsing)

/-- A value as a whole number. Bytes are read as the text that they encode. -/
def toWhole : Value → Except Issue Int
  | .quantity (.whole n) => .ok n
  | .quantity (.truth b) => .ok (if b then 1 else 0)
  | .quantity (.real v) => wholeOfReal v
  | .text s | .bytes (some s) => wholeOfText s
  | .bytes none => .error .intParsing
  | .garbled => .error .stringUnicode
  | .nothing | .moment | .list | .table => .error .intType

/-- A value as a real number. Bytes are read as the text that they encode. -/
def toReal : Value → Except Issue Float
  | .quantity q => (q.toFloat?.map .ok).getD (.error .floatType)
  | .text s | .bytes (some s) => realOfText s
  | .bytes none => .error .floatParsing
  | .garbled => .error .stringUnicode
  | .nothing | .moment | .list | .table => .error .floatType

/-- A whole number with a least and perhaps a greatest value. -/
def toCount (least : Int) (greatest : Option Int) (value : Value) : Except Issue Int := do
  let n ← toWhole value
  if n < least then .error .greaterThanEqual
  else if greatest.any (· < n) then .error .lessThanEqual
  else .ok n

/-- A real number above zero. -/
def toPositive (value : Value) : Except Issue Float := do
  let v ← toReal value
  if v > 0 then .ok v else .error .greaterThan

/-- The levels that may be configured. -/
def levels : List String :=
  ["DEBUG", "INFO", "WARNING", "ERROR", "CRITICAL"]

/-- A level, in any case. -/
def toLevel : Value → Except Issue String
  | .text s => if Text.upper s ∈ levels then .ok (Text.upper s) else .error .literalError
  | .garbled => .error .stringUnicode
  | _ => .error .literalError

end Settings

end Reckon
