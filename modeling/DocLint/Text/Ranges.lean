/-!
# Ranges of code points

Character classes are given as ascending lists of inclusive ranges. `has` stops
at the first range that lies behind the code point, so that a look-up among the
first few scripts is short however long the table.
-/

namespace DocLint.Text

/-- Inclusive ranges of code points, in ascending order. -/
abbrev CodeRanges := List (Nat × Nat)

/-- Does the code point `n` lie in one of the ranges? -/
def CodeRanges.has : CodeRanges → Nat → Bool
  | [], _ => false
  | (first, last) :: rest, n =>
    if n < first then false else if n ≤ last then true else has rest n

end DocLint.Text
