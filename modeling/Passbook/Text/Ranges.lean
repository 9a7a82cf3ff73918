/-!
# Sets of characters

A set of characters that belong together is given by the closed ranges of their code points.
-/

namespace Passbook.Text

def inRanges (ranges : List (Nat × Nat)) (c : Char) : Bool :=
  ranges.any fun range => range.1 ≤ c.toNat && c.toNat ≤ range.2

end Passbook.Text
