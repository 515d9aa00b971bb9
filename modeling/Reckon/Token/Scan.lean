import Reckon.Builtin
import Reckon.Decimal.Literal
import Reckon.Operator
import Reckon.Text.Blank
/-!
# Token — from text to tokens

The tokens of an expression, left to right, the longest first. `lexeme`
reads the one token that starts at a character, `tokens` walks over the
whole text, and `tokenize` refuses a text that holds none.
-/

namespace Reckon

namespace Scan

/-- The characters of a mantissa: digits and points. -/
def isMantissa (c : Char) : Bool :=
  Decimal.isDigit c || c == '.'

/-- The characters that a name may start with: ASCII letters and `π`. -/
def isNameStart (c : Char) : Bool :=
  ('a' ≤ c && c ≤ 'z') || ('A' ≤ c && c ≤ 'Z') || c == 'π'

/-- The characters that a name may go on with. -/
def isNameChar (c : Char) : Bool :=
  isNameStart c || Decimal.isDigit c

/-- The text of the numeric literal at the start: all digits and points,
and an exponent where there is one. -/
def literal (s : List Char) : List Char :=
  s.takeWhile isMantissa ++ Decimal.exponentPart (s.dropWhile isMantissa)

/-- The number token at the start of `s`. A mantissa with two points is
malformed whatever follows it. -/
def number (position : Nat) (s : List Char) : Except Error (Lexeme × Nat) :=
  let mantissa := s.takeWhile isMantissa
  if mantissa.count '.' > 1 then .error (.invalidNumber (String.ofList mantissa) position)
  else
    match Decimal.readFinite? (literal s) with
    | some v => .ok (.number v, (literal s).length - 1)
    | none => .error (.invalidNumber (String.ofList (literal s)) position)

/-- The kind of a name: a constant, a function or a declared variable, in
this order. -/
def nameKind? (declared : List String) (name : String) : Option Symbol :=
  if (constant? name).isSome then some .constantName
  else if (Builtin.ofName? name).isSome then some .functionName
  else if name ∈ declared then some .variableName
  else none

/-- The name token at the start of `s`. -/
def name (declared : List String) (s : List Char) : Except Error (Lexeme × Nat) :=
  let letters := s.takeWhile isNameChar
  let text := String.ofList letters
  match nameKind? declared text with
  | some kind => .ok (.symbol kind text, letters.length - 1)
  | none => .error (.unknownName text)

/-- The kind of a character that is a token by itself. -/
def punctuation? (c : Char) : Option Symbol :=
  match c with
  | '+' | '-' | '/' | '%' | '^' => some .operator
  | '(' => some .openParen
  | ')' => some .closeParen
  | ',' => some .comma
  | _ => none

/-- **The token that starts with the character `c`,** and how many
characters after `c` belong to it. -/
def lexeme (declared : List String) (position : Nat) (c : Char) (rest : List Char) :
    Except Error (Lexeme × Nat) :=
  if isMantissa c then number position (c :: rest)
  else if c = '*' then
    match rest with
    | '*' :: _ => .ok (.symbol .operator "**", 1)
    | _ => .ok (.symbol .operator "*", 0)
  else
    match punctuation? c with
    | some kind => .ok (.symbol kind (String.ofList [c]), 0)
    | none =>
      if isNameStart c then name declared (c :: rest)
      else .error (.invalidCharacter c position)

/-- The tokens of a text that starts at `position`, after `skip` characters
that belong to a token already read. -/
def tokens (declared : List String) :
    (skip position : Nat) → List Char → Except Error (List Token)
  | _, _, [] => .ok []
  | skip + 1, position, _ :: rest => tokens declared skip (position + 1) rest
  | 0, position, c :: rest =>
    if Text.isBlank c then tokens declared 0 (position + 1) rest
    else do
      let (lexeme, more) ← lexeme declared position c rest
      return ⟨lexeme, position⟩ :: (← tokens declared more (position + 1) rest)

end Scan

/-- **The tokens of an expression,** with the declared names as variables. -/
def tokenize (declared : List String) (expression : String) : Except Error (List Token) :=
  let s := expression.toList
  if s.all Text.isBlank then .error .emptyExpression else Scan.tokens declared 0 0 s

end Reckon
