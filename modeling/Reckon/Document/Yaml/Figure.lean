import Reckon.Document.Yaml.Word
import Reckon.Text.Base64
import Reckon.Text.Digit
import Reckon.Value
/-!
# Document — what YAML scalars write

The truth value, the number, the moment or the bytes that a scalar writes,
once it is known which of them it is said to be. A number may have
underscores anywhere and may be of several bases. `valueOf` is the value of
a scalar with its tag.
-/

namespace Reckon

namespace Yaml

/-! ## Numbers -/

/-- The natural number that digits of a base write. -/
def natOf (base : Nat) (digits : List Char) : Nat :=
  digits.foldl (fun n c => base * n + (digitOf? base c).getD 0) 0

/-- The letters that announce a base behind a zero. -/
def baseLetters : List (Nat × Char) :=
  [(2, 'b'), (8, 'o'), (16, 'x')]

/-- The text behind the sign for a base, where there is one. -/
def withoutBaseSign (base : Nat) : List Char → List Char
  | '0' :: c :: rest => if (base, c.toLower) ∈ baseLetters then rest else '0' :: c :: rest
  | s => s

/-- A text without blanks around it, with the digits of ASCII. -/
def numberText (s : List Char) : List Char :=
  Text.trim Text.isSpace (Text.asciiDigits s)

/-- The whole number of a base that a text writes, with a sign and blanks
around it. -/
def wholeIn (base : Nat) (s : List Char) : Except Fault Int :=
  let (minus, rest) := Number.splitMinus (numberText s)
  let digits := withoutBaseSign base rest
  if digits = [] ∨ !(digits.all fun c => (digitOf? base c).isSome) then
    .error (.notWhole base (String.ofList s))
  else if base = 10 ∧ Number.wholeLength < digits.length then .error (.tooLong digits.length)
  else
    let n := Int.ofNat (natOf base digits)
    .ok (if minus then -n else n)

/-- The parts of a text between its colons. -/
def colonParts (s : List Char) : List (List Char) :=
  s.foldr
    (fun c parts =>
      if c = ':' then [] :: parts
      else match parts with
        | [] => [[c]]
        | part :: parts => (c :: part) :: parts)
    [[]]

/-- The text without underscores. -/
def withoutUnderscores (s : List Char) : List Char :=
  s.filter (· ≠ '_')

/-- The whole number that a text without a sign writes. -/
def unsignedWhole : List Char → Except Fault Int
  | [] => .error .noFigure
  | '0' :: 'b' :: digits => wholeIn 2 digits
  | '0' :: 'x' :: digits => wholeIn 16 digits
  | '0' :: digits => wholeIn 8 ('0' :: digits)
  | s =>
    if ':' ∈ s then do
      return (← (colonParts s).mapM (wholeIn 10)).foldl (fun n part => 60 * n + part) 0
    else wholeIn 10 s

/-- The whole number that a scalar writes. -/
def whole (s : List Char) : Except Fault Int :=
  let s := withoutUnderscores s
  if s = [] then .error .noFigure
  else
    let (minus, rest) := Number.splitMinus s
    (unsignedWhole rest).map fun n => if minus then -n else n

/-- The real number that a text writes, with a sign and blanks around it. -/
def realPart (s : List Char) : Except Fault Float :=
  match Number.signed? (numberText s) with
  | some v => .ok v
  | none => .error (.notReal (String.ofList s))

/-- The sum of parts of a base of sixty, the last of which counts for
itself. No unit may be too large for a real number. -/
def sixties (parts : List Float) : Except Fault Float :=
  let (total, unit) := parts.foldr
    (fun part (total, unit) => (total + part * Float.ofNat unit, 60 * unit))
    ((0.0, 1) : Float × Nat)
  if (Float.ofNat (unit / 60)).isFinite then .ok total else .error .tooManyParts

/-- The real number that a text without a sign and in small letters writes. -/
def unsignedReal (s : List Char) : Except Fault Float :=
  if s = ".inf".toList then .ok Number.infinity
  else if s = ".nan".toList then .ok Number.nan
  else if ':' ∈ s then (colonParts s).mapM realPart >>= sixties
  else realPart s

/-- The real number that a scalar writes. -/
def real (s : List Char) : Except Fault Float :=
  let s := Text.smalls (withoutUnderscores s)
  if s = [] then .error .noFigure
  else
    let (minus, rest) := Number.splitMinus s
    (unsignedReal rest).map fun v => if minus then -v else v

/-! ## Moments -/

/-- The number of days of a month. -/
def daysOf (year month : Nat) : Nat :=
  let isLeap := year % 4 = 0 ∧ (year % 100 ≠ 0 ∨ year % 400 = 0)
  if month = 2 then if isLeap then 29 else 28
  else if month ∈ [4, 6, 9, 11] then 30
  else 31

/-- The first part of a date that is out of range. -/
def Moment.dateOutOfRange? (m : Moment) : Option MomentPart :=
  if m.year = 0 then some (.year m.year)
  else if m.month = 0 ∨ 12 < m.month then some .month
  else if m.day = 0 ∨ daysOf m.year m.month < m.day then some .day
  else none

/-- The first part of a time that is out of range, the zone apart. -/
def Clock.outOfRange? (t : Clock) : Option MomentPart :=
  if 23 < t.hour then some .hour
  else if 59 < t.minute then some .minute
  else if 59 < t.second then some .second
  else none

/-- The zone of a time, where it is a day away or more. -/
def Clock.zoneOutOfRange? (t : Clock) : Option MomentPart :=
  if t.zone.natAbs < 24 * 60 then none else some (.zone t.zone)

/-- The part of a moment that is found to be out of range: the zone, or the
first one. -/
def Moment.outOfRange? (m : Moment) : Option MomentPart :=
  m.time.bind Clock.zoneOutOfRange? <|> m.dateOutOfRange? <|> m.time.bind Clock.outOfRange?

/-- The value of a scalar that should be a moment. A line break may end it. -/
def momentValue (s : List Char) : Except Fault Value :=
  match moment? (withoutBreak s) with
  | some m =>
    match m.outOfRange? with
    | some part => .error (.noSuchMoment part)
    | none => .ok .moment
  | none => .error .noMoment

/-! ## Scalars -/

/-- The value of a scalar that should be bytes. -/
def bytesValue (s : List Char) : Except Fault Value :=
  match if s.all fun c => c.toNat < 0x80 then Text.Base64.decode? s else none with
  | some bytes => .ok (.bytes (String.fromUTF8? ⟨bytes.toArray⟩))
  | none => .error .malformed

/-- **The value of a scalar with its tag.** -/
def valueOf (tag : Tag) (s : List Char) : Except Fault Value :=
  match tag with
  | .null => .ok .nothing
  | .text => .ok (.text (String.ofList s))
  | .garbled => .ok .garbled
  | .truth =>
    match truthWords.lookup (lowerCase s) with
    | some b => .ok (.quantity (.truth b))
    | none => .error (.noTruth (lowerCase s))
  | .whole => (whole s).map Value.whole
  | .real => (real s).map Value.real
  | .moment => momentValue s
  | .bytes => bytesValue s
  | .sequence | .pairs | .mapping | .set | .merge | .value | .unknown => .error .malformed

end Yaml

end Reckon
