/-!
Sets of code points as ascending lists of closed ranges.
-/
namespace AutoItNav

abbrev CodeRanges := List (Nat × Nat)

/-- The ranges ascend, so the search ends at the first one that begins above the code point. -/
def CodeRanges.has : CodeRanges → Nat → Bool
  | [], _ => false
  | (lo, hi) :: rest, n => if n < lo then false else n ≤ hi || CodeRanges.has rest n

end AutoItNav
