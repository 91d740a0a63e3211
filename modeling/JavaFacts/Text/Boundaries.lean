/-!
# Counting boundaries

A text is cut into lines, and the code points into classes, by an increasing array of boundaries.
The one question asked of such an array is how many boundaries lie at or before a value. The search
halves the array, so the answer is right whenever the array is increasing.
-/

namespace JavaFacts.Text

namespace Boundaries

/--
The search between `low` and `high`: every boundary before `low` is at most `value`, every boundary
from `high` on is larger, and each step halves what lies between them.
-/
def search (bounds : Array Nat) (value : Nat) : (fuel : Nat) → (low high : Nat) → Nat
  | 0, low, _ => low
  | fuel + 1, low, high =>
    if low < high then
      let middle := (low + high) / 2
      if bounds.getD middle 0 ≤ value then search bounds value fuel (middle + 1) high
      else search bounds value fuel low middle
    else low

/-- The number of boundaries that lie at or before `value`. -/
def countUpTo (bounds : Array Nat) (value : Nat) : Nat :=
  search bounds value bounds.size 0 bounds.size

end Boundaries

end JavaFacts.Text
