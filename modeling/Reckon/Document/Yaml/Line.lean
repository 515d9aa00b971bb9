/-!
# Document — the lines of a YAML text

What ends a line or a word, what marks the start and the end of a document,
and which characters a text may hold at all.
-/

namespace Reckon

namespace Yaml

/-- A line break. -/
def isBreak (c : Char) : Bool :=
  c == '\n' || c == '\u0085' || c == '\u2028' || c == '\u2029'

/-- A blank within a line. -/
def isBlank (c : Char) : Bool := c == ' ' || c == '\t'

/-- Whether a text ends here, or a blank or a line break follows. -/
def endsWord : List Char → Bool
  | [] => true
  | c :: _ => isBlank c || isBreak c

/-- A line break as a character of a value. -/
def breakText (c : Char) : Char :=
  if c = '\u0085' then '\n' else c

/-- Whether the first line of a text is a mark between documents. -/
def isMark (s : List Char) : Bool :=
  (s.take 3 == ['-', '-', '-'] || s.take 3 == ['.', '.', '.']) && endsWord (s.drop 3)

/-- Whether a text may hold a character. -/
def isPrintable (c : Char) : Bool :=
  let n := c.toNat
  n == 0x09 || n == 0x0a || n == 0x0d || (0x20 ≤ n && n ≤ 0x7e) || n == 0x85 ||
    (0xa0 ≤ n && n ≤ 0xfffd) || 0x10000 ≤ n

end Yaml

end Reckon
