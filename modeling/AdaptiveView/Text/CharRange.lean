/-!
# Ranges of characters

A character class of the Unicode standard is written as a list of closed ranges of code points.
-/

set_option autoImplicit false

namespace AdaptiveView.Text

/-- Closed ranges of code points, first and last. -/
abbrev CharRanges := List (Nat × Nat)

def CharRanges.holds (ranges : CharRanges) (c : Char) : Bool :=
  ranges.any fun range => range.1 ≤ c.toNat && c.toNat ≤ range.2

end AdaptiveView.Text
