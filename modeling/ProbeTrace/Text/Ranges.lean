/-!
# Ranges of characters

A class of characters is a list of ranges of code points, in increasing order and
apart from each other, each given by its first and last code point.
-/

set_option autoImplicit false

namespace ProbeTrace.Text

abbrev Ranges := List (Nat × Nat)

namespace Ranges

/-- Whether a code point lies in one of the ranges. The search ends at the first
range that does not end before the code point. -/
def covers : Ranges → Nat → Bool
  | [], _ => false
  | (first, last) :: rest, code =>
    if code ≤ last then first ≤ code else covers rest code

end Ranges
end ProbeTrace.Text
