/-!
# Ranges of code points

Character properties are tables of inclusive ranges of code points in increasing order. Membership
reads a table from the left and stops at the first range that begins beyond the code point.

## Main definitions

* `inRanges`: membership of a code point in a table.
-/

namespace HtmlText

/-- Whether a code point lies in one of the ranges, which are in increasing order. -/
def inRanges : List (Nat × Nat) → Nat → Bool
  | [], _ => false
  | (first, last) :: ranges, n => first ≤ n && (n ≤ last || inRanges ranges n)

end HtmlText
