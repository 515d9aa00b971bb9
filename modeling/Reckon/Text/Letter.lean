/-!
# Text — upper case

Upper case as far as the letters of ASCII are concerned, on either side:
the dotless `ı` and the long `ſ` are the only other letters with a capital
among them.
-/

namespace Reckon

namespace Text

/-- The capital of a letter, where that is a letter of ASCII. -/
def upperChar (c : Char) : Char :=
  if c = 'ı' then 'I' else if c = 'ſ' then 'S' else c.toUpper

/-- The text in upper case. -/
def upper (s : String) : String :=
  String.ofList (s.toList.map upperChar)

end Text

end Reckon
