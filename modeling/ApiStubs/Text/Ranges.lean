/-! Sets of code points as ascending lists of closed ranges. -/

namespace ApiStubs.Text.Ranges

def contains : List (Nat × Nat) → Nat → Bool
  | [], _ => false
  | (low, high) :: rest, n =>
      if n < low then false else if n ≤ high then true else contains rest n

end ApiStubs.Text.Ranges
