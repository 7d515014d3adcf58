/-!
# Ranges of code points

Character classes of Unicode are kept as lists of closed ranges in increasing order.
-/
namespace CodeGraph.Text

/-- Whether a code point lies in one of the ranges. The ranges stand in increasing order, so the
search ends at the first range that starts behind the code point. -/
def inRanges : List (Nat × Nat) → Nat → Bool
  | [], _ => false
  | r :: rs, n => if n < r.1 then false else if n ≤ r.2 then true else inRanges rs n

end CodeGraph.Text
