/-!
# Sets of code points

A set of characters is given by the ranges of its code points.
-/

namespace LivePage
namespace Text

/-- Whether a character's code point lies in one of the ranges, both ends of a
range included. -/
def inRanges (ranges : List (Nat × Nat)) (c : Char) : Bool :=
  ranges.any fun r => r.1 ≤ c.toNat && c.toNat ≤ r.2

end Text
end LivePage
