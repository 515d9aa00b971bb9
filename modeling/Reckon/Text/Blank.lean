/-!
# Text — blank characters

The characters that may stand between two tokens of an expression: the
control characters that end a line or a field, and every space and separator
of the Unicode tables. Around a number text the four control characters that
separate fields are not skipped.
-/

namespace Reckon

namespace Text

/-- Blank characters: tab to carriage return, the four information
separators, the space, next-line, and the Unicode spaces and line
separators. -/
def isBlank (c : Char) : Bool :=
  let n := c.toNat
  (0x09 ≤ n && n ≤ 0x0d) || (0x1c ≤ n && n ≤ 0x20) || n == 0x85 || n == 0xa0 || n == 0x1680 ||
    (0x2000 ≤ n && n ≤ 0x200a) || n == 0x2028 || n == 0x2029 || n == 0x202f || n == 0x205f ||
    n == 0x3000

/-- Spaces are the blanks other than the four information separators. -/
def isSpace (c : Char) : Bool :=
  isBlank c && !(0x1c ≤ c.toNat && c.toNat ≤ 0x1f)

/-- The text without the characters of a class at its two ends. -/
def trim (dropped : Char → Bool) (s : List Char) : List Char :=
  ((s.dropWhile dropped).reverse.dropWhile dropped).reverse

end Text

end Reckon
