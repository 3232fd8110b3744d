/-!
# Ranges of characters

A property of characters is given by a table of ranges of code points, both
ends included and in ascending order. `inRanges` looks a character up.
-/

namespace ChatRelay.Text

/-- Whether a code point lies in one of the ranges. -/
def inRanges (ranges : Array (Nat × Nat)) (c : Char) : Bool :=
  ranges.any fun (first, last) => first ≤ c.toNat && c.toNat ≤ last

end ChatRelay.Text
