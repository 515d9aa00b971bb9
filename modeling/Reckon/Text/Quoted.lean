import Reckon.Text.Hidden
/-!
# Text — quoted text

A text between quotes, for messages: single quotes, or double quotes
where the text holds a single quote and no double one. The quote that is
used and the backslash are escaped, and so is every character that does not
print.
-/

namespace Reckon

namespace Text

/-- Hexadecimal digits, filled up with zeros to a width. -/
def hex (width n : Nat) : List Char :=
  let digits := Nat.toDigits 16 n
  List.replicate (width - digits.length) '0' ++ digits

/-- The escape of a character that is not shown. -/
def escapeHidden (c : Char) : List Char :=
  if c = '\n' then ['\\', 'n']
  else if c = '\r' then ['\\', 'r']
  else if c = '\t' then ['\\', 't']
  else if c.toNat < 0x100 then '\\' :: 'x' :: hex 2 c.toNat
  else if c.toNat < 0x10000 then '\\' :: 'u' :: hex 4 c.toNat
  else '\\' :: 'U' :: hex 8 c.toNat

/-- One character of a quoted text. -/
def escape (quote c : Char) : List Char :=
  if c = quote ∨ c = '\\' then ['\\', c]
  else if isHidden c then escapeHidden c
  else [c]

/-- The text in quotes. -/
def quoted (s : String) : String :=
  let cs := s.toList
  let quote := if '\'' ∈ cs ∧ '"' ∉ cs then '"' else '\''
  String.ofList (quote :: cs.flatMap (escape quote) ++ [quote])

end Text

end Reckon
