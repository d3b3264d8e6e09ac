/-! # Ranges of code points

A class of characters is given by the closed ranges of its code points, in increasing order.
-/
namespace Interpose.Text

set_option autoImplicit false

/-- Whether a code point lies in one of the closed ranges. -/
def inRanges (ranges : List (Nat × Nat)) (code : Nat) : Bool :=
  ranges.any fun r => r.1 ≤ code && code ≤ r.2

end Interpose.Text
