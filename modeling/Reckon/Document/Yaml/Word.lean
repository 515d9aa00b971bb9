import Reckon.Decimal.Literal
import Reckon.Document.Yaml.Scalar
import Reckon.Text.Small
/-!
# Document — what YAML words are

A tag says what a node is. Where none is written, a plain scalar is told by
its looks: `Tag.ofWord` finds the tag of a word, and `moment?` reads the
words for dates and times.
-/

namespace Reckon

namespace Yaml

/-- What a node is said to be. -/
inductive Tag where
  | null
  | truth
  | whole
  | real
  | moment
  | text
  /-- A text with half a character. -/
  | garbled
  | bytes
  | sequence
  | pairs
  | mapping
  | set
  /-- The key of entries that are taken from other mappings. -/
  | merge
  /-- The key of a default value. -/
  | value
  | unknown
deriving DecidableEq

/-- The start of the common tags. -/
def commonStart : String := "tag:yaml.org,2002:"

/-- The common tags by what follows their start. -/
def commonTags : List (String × Tag) :=
  [("null", .null), ("bool", .truth), ("int", .whole), ("float", .real), ("timestamp", .moment),
    ("str", .text), ("binary", .bytes), ("seq", .sequence), ("omap", .pairs), ("pairs", .pairs),
    ("map", .mapping), ("set", .set), ("merge", .merge), ("value", .value)]

/-- The tag that is written as a whole. -/
def Tag.ofName (name : String) : Tag :=
  ((commonTags.find? fun (ending, _) => commonStart ++ ending = name).map (·.2)).getD .unknown

/-- The text without a line break at its end, where there is more to it. -/
def withoutBreak (s : List Char) : List Char :=
  if s.getLast? = some '\n' ∧ s ≠ ['\n'] then s.dropLast else s

/-! ## Classes of words -/

/-- The words for truth values, in lower case. -/
def truthWords : List (String × Bool) :=
  [("yes", true), ("no", false), ("true", true), ("false", false), ("on", true), ("off", false)]

/-- A word in lower case. -/
def lowerCase (s : List Char) : String :=
  String.ofList (Text.smalls s)

/-- Whether the letters of a word are all small, all capital, or capital
only at its start. -/
def isEvenlyCased (s : List Char) : Bool :=
  let isUpper := s.all Char.isUpper
  let isLowerTail := (s.drop 1).all Char.isLower
  isUpper || isLowerTail

/-- Whether a word is the word for a truth value. -/
def isTruth (s : List Char) : Bool :=
  isEvenlyCased s && (truthWords.lookup (lowerCase s)).isSome

/-- Whether a word says that there is nothing. -/
def isNull (s : List Char) : Bool :=
  s == [] || s == ['~'] || (isEvenlyCased s && lowerCase s == "null")

/-- The text without a sign at its start. -/
def withoutSign : List Char → List Char
  | '+' :: rest => rest
  | '-' :: rest => rest
  | s => s

/-- A digit or an underscore. -/
def isFigure (c : Char) : Bool :=
  Decimal.isDigit c || c == '_'

/-- Whether a text starts with a digit. -/
def startsDigit (s : List Char) : Bool :=
  s.head?.any Decimal.isDigit

/-- Whether a text starts with a digit above zero. -/
def startsPositive (s : List Char) : Bool :=
  startsDigit s && s.head? != some '0'

/-- What follows parts of a base of sixty, each of one or two digits behind a
colon. -/
def afterSixties : List Char → List Char
  | ':' :: c :: d :: rest =>
    if '0' ≤ c ∧ c ≤ '5' ∧ Decimal.isDigit d then afterSixties rest
    else if Decimal.isDigit c then afterSixties (d :: rest)
    else ':' :: c :: d :: rest
  | [':', c] => if Decimal.isDigit c then [] else [':', c]
  | s => s

/-- Whether a word is a whole number: of base two, eight, ten, sixteen or
sixty. -/
def isWhole (s : List Char) : Bool :=
  match withoutSign s with
  | ['0'] => true
  | '0' :: c :: rest =>
    if c = 'b' then rest != [] && rest.all fun d => d == '0' || d == '1' || d == '_'
    else if c = 'x' then rest != [] && rest.all fun d => (digitOf? 16 d).isSome || d == '_'
    else (c :: rest).all fun d => (digitOf? 8 d).isSome || d == '_'
  | s => startsPositive s && afterSixties (s.dropWhile isFigure) == []

/-- Whether a text is an exponent with its sign, or nothing. -/
def isExponent (s : List Char) : Bool :=
  match s with
  | [] => true
  | e :: sign :: digits =>
    (e == 'e' || e == 'E') && (sign == '+' || sign == '-') && digits != [] &&
      digits.all Decimal.isDigit
  | [_] => false

/-- Whether a word is a real number: with a point, or of base sixty with a
point, or one of the words for infinity and NaN. -/
def isReal (s : List Char) : Bool :=
  let unsigned := withoutSign s
  let isDecimal := match unsigned.dropWhile isFigure with
    | '.' :: fraction => startsDigit unsigned && isExponent (fraction.dropWhile isFigure)
    | rest =>
      match afterSixties rest with
      | '.' :: fraction => startsDigit unsigned && rest.head? == some ':' && fraction.all isFigure
      | _ => false
  let isFraction := match s with
    | '.' :: fraction => startsDigit fraction && isExponent (fraction.dropWhile isFigure)
    | _ => false
  let isInfinity := unsigned ∈ [".inf".toList, ".Inf".toList, ".INF".toList]
  let isNan := s ∈ [".nan".toList, ".NaN".toList, ".NAN".toList]
  isDecimal || isFraction || isInfinity || isNan

/-! ## Dates and times -/

/-- A time of the day. The zone is a distance in minutes. -/
structure Clock where
  hour : Nat
  minute : Nat
  second : Nat
  zone : Int

/-- A date, perhaps with a time of the day. -/
structure Moment where
  year : Nat
  month : Nat
  day : Nat
  time : Option Clock

/-- A number of so many digits, or of fewer where they end. -/
def number? (least most : Nat) (s : List Char) : Option (Nat × List Char) :=
  let digits := (s.take most).takeWhile Decimal.isDigit
  if digits.length < least then none else some (Decimal.natOfDigits digits, s.drop digits.length)

/-- What follows a character. -/
def after? (c : Char) (s : List Char) : Option (List Char) :=
  if s.head? = some c then some (s.drop 1) else none

/-- The distance of a time zone behind its sign: hours, and perhaps minutes. -/
def offset? (s : List Char) : Option Int := do
  let (hours, s) ← number? 1 2 s
  let (minutes, s) ← match s with
    | ':' :: s => number? 2 2 s
    | s => some (0, s)
  if s = [] then return Int.ofNat (60 * hours + minutes) else none

/-- The time zone that a text writes, none where there is no text. -/
def zone? (s : List Char) : Option Int :=
  match s, s.dropWhile isBlank with
  | [], _ => some 0
  | _, ['Z'] => some 0
  | _, '+' :: offset => offset? offset
  | _, '-' :: offset => (offset? offset).map (- ·)
  | _, _ => none

/-- The time of a day, with a fraction that is passed over. -/
def time? (s : List Char) : Option Clock := do
  let (hour, s) ← number? 1 2 s
  let (minute, s) ← number? 2 2 (← after? ':' s)
  let (second, s) ← number? 2 2 (← after? ':' s)
  let s := match s with
    | '.' :: fraction => fraction.dropWhile Decimal.isDigit
    | s => s
  return { hour, minute, second, zone := ← zone? s }

/-- The moment that a word writes, which need not be one of the calendar. -/
def moment? (s : List Char) : Option Moment := do
  let (year, s) ← number? 4 4 s
  let (month, s) ← number? 1 2 (← after? '-' s)
  let (day, s) ← number? 1 2 (← after? '-' s)
  match s with
  | [] => return { year, month, day, time := none }
  | c :: rest =>
    if c = 'T' ∨ c = 't' then return { year, month, day, time := some (← time? rest) }
    else if isBlank c then
      return { year, month, day, time := some (← time? (rest.dropWhile isBlank)) }
    else none

/-- Whether a word is a date or a time. A date alone has all its digits. -/
def isMoment (s : List Char) : Bool :=
  (moment? s).any fun m => m.time.isSome || s.length == 10

/-! ## The tag of a word -/

/-- **The tag of a word.** A line break may end it, and the signs for
properties are no words. -/
def Tag.ofWord (word : List Char) : Tag :=
  let s := withoutBreak word
  if isNull s then .null
  else if isTruth s then .truth
  else if isReal s then .real
  else if isWhole s then .whole
  else if isMoment s then .moment
  else if s = ['<', '<'] then .merge
  else if s = ['='] then .value
  else if s ∈ [['!'], ['&'], ['*']] then .unknown
  else .text

end Yaml

end Reckon
