/-!
# Ranges of characters

A property of characters is given by the ranges of code points that have it, in ascending order.
-/

namespace Flowscript.Text

/-- Whether a character lies in one of the ranges, both ends included. -/
def inRanges (ranges : List (Nat × Nat)) (c : Char) : Bool :=
  ranges.any fun (first, last) => first ≤ c.toNat && c.toNat ≤ last

end Flowscript.Text
