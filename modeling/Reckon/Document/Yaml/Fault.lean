import Reckon.Number.Read
import Reckon.Text.Quoted
/-!
# Document — why a YAML document has no value

A document may be malformed, or a scalar may not be what its tag says. Some
faults break off a run, where others are reported: `Fault.breaksOff` tells
them apart.
-/

namespace Reckon

namespace Yaml

/-- The parts of a moment that may be out of range. -/
inductive MomentPart where
  | year (n : Nat)
  | month
  | day
  | hour
  | minute
  | second
  /-- The distance of the time zone, in minutes. -/
  | zone (offset : Int)
deriving DecidableEq

/-- Why a document has no value. -/
inductive Fault where
  /-- The text is no document. -/
  | malformed
  /-- Collections are nested too deeply. -/
  | tooDeep
  /-- An escape stands for a code point beyond the last. -/
  | noCodePoint (code : Nat)
  /-- A scalar that should be a truth value is no word for one. -/
  | noTruth (word : String)
  /-- A scalar that should be a number is empty. -/
  | noFigure
  /-- A scalar that should be a whole number is none of its base. -/
  | notWhole (base : Nat) (text : String)
  /-- A whole number has too many decimal digits. -/
  | tooLong (count : Nat)
  /-- A scalar that should be a real number is none. -/
  | notReal (text : String)
  /-- A number of base sixty has more parts than a real number can have. -/
  | tooManyParts
  /-- A scalar that should be a date or a time is none. -/
  | noMoment
  /-- A mapping stands where a date or a time should. -/
  | momentOfMapping
  /-- A date or a time is not of the calendar. -/
  | noSuchMoment (part : MomentPart)
deriving DecidableEq

/-- A duration in minutes as days and seconds. -/
def durationText (minutes : Int) : String :=
  let days := minutes.fdiv 1440
  let seconds := 60 * minutes.fmod 1440
  let tail := if seconds = 0 then "" else ", seconds=" ++ toString seconds
  "datetime.timedelta(days=" ++ toString days ++ tail ++ ")"

/-- What is said of a part of a moment that is out of range. -/
def MomentPart.message : MomentPart → String
  | year n => "year " ++ toString n ++ " is out of range"
  | month => "month must be in 1..12"
  | day => "day is out of range for month"
  | hour => "hour must be in 0..23"
  | minute => "minute must be in 0..59"
  | second => "second must be in 0..59"
  | zone offset =>
    "offset must be a timedelta strictly between -timedelta(hours=24) and " ++
      "timedelta(hours=24), not " ++ durationText offset ++ "."

/-- The first two hundred characters of a quoted text. -/
def quotedStart (s : String) : String :=
  String.ofList ((Text.quoted s).toList.take 200)

/-- The greatest code point that is looked up at all. -/
def greatestCode : Nat := 0x7fffffff

/-- The wording of a fault. -/
def Fault.message : Fault → String
  | malformed => "malformed document"
  | tooDeep => "maximum recursion depth exceeded"
  | noCodePoint code =>
    if greatestCode < code then "Python int too large to convert to C int"
    else "chr() arg not in range(0x110000)"
  | noTruth word => Text.quoted word
  | noFigure => "string index out of range"
  | notWhole base text =>
    "invalid literal for int() with base " ++ toString base ++ ": " ++ quotedStart text
  | tooLong count =>
    "Exceeds the limit (" ++ toString Number.wholeLength ++
      " digits) for integer string conversion: value has " ++ toString count ++
      " digits; use sys.set_int_max_str_digits() to increase the limit"
  | notReal text => "could not convert string to float: " ++ Text.quoted text
  | tooManyParts => "int too large to convert to float"
  | noMoment => "'NoneType' object has no attribute 'groupdict'"
  | momentOfMapping => "expected string or bytes-like object, got 'list'"
  | noSuchMoment part => part.message

/-- Whether a fault breaks a run off, where others are reported. -/
def Fault.breaksOff : Fault → Bool
  | tooDeep | noTruth _ | noFigure | tooManyParts | noMoment | momentOfMapping => true
  | noCodePoint code => greatestCode < code
  | malformed | notWhole _ _ | tooLong _ | notReal _ | noSuchMoment _ => false

end Yaml

end Reckon
