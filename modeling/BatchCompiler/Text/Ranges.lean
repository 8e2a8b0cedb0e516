/-!
# Sets of code points as ascending ranges

A Unicode property is a finite set of code points; it is kept as the ascending list of its maximal
ranges, so that a look-up stops at the first range beyond the code point.
-/

namespace BatchCompiler.Text

/-- **Ranges of code points**, both ends included, ascending and disjoint. -/
abbrev CodePointRanges := List (Nat × Nat)

/-- `n` lies in one of the ranges. -/
def CodePointRanges.contains : CodePointRanges → Nat → Bool
  | [], _ => false
  | (low, high) :: rest, n =>
      if n < low then false
      else if n ≤ high then true
      else CodePointRanges.contains rest n

end BatchCompiler.Text
