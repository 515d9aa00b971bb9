/-!
# Text — line ends

A file may end its lines in three ways, and is read as if it had one.
-/

namespace Reckon

namespace Text

/-- The text with a line feed for every carriage return, alone or with the
line feed after it. -/
def unixLines : List Char → List Char
  | '\r' :: '\n' :: rest => '\n' :: unixLines rest
  | '\r' :: rest => '\n' :: unixLines rest
  | c :: rest => c :: unixLines rest
  | [] => []

end Text

end Reckon
