/-! Sets of code points, written as ranges in ascending order. -/
namespace BookExchange.Text

def inRanges : List (Nat × Nat) → Nat → Bool
  | [], _ => false
  | (first, last) :: rest, n => first ≤ n && (n ≤ last || inRanges rest n)

end BookExchange.Text
