/-!
# Ranges of code points

A character class above ASCII is a table of ranges of code points, in increasing order.
-/

namespace InterfaceAtlas.Text

/-- Whether a code point lies in one of the ranges, both ends included. -/
def inRanges (table : List (Nat × Nat)) (n : Nat) : Bool :=
  table.any fun r => r.1 ≤ n && n ≤ r.2

end InterfaceAtlas.Text
