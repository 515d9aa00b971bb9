/-!
# Text — ranges of code points

A property of characters is a list of ranges, each by its first and its last
code point.
-/

namespace Reckon

namespace Text

/-- Whether a code point lies in one of the ranges. -/
def inRanges (ranges : List (Nat × Nat)) (n : Nat) : Bool :=
  ranges.any fun (first, last) => first ≤ n && n ≤ last

end Text

end Reckon
