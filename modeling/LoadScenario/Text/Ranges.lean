/-!
# Sets of characters as ranges

A set of characters is held as an array of ranges of code points, ascending,
disjoint and with both ends included; membership is found by halving the
array.
-/

namespace LoadScenario.Text

/-- Whether `n` falls in one of the ascending ranges, by halving the search. -/
def inRanges (rs : Array (Nat × Nat)) (n : Nat) : Bool :=
  go rs.size 0 rs.size
where
  /-- Searches the ranges with index in `[lo, hi)`, with `fuel` halvings left. -/
  go : Nat → Nat → Nat → Bool
    | 0, _, _ => false
    | fuel + 1, lo, hi =>
      if hi ≤ lo then false
      else
        let mid := (lo + hi) / 2
        let (a, b) := rs.getD mid (0, 0)
        if n < a then go fuel lo mid
        else if b < n then go fuel (mid + 1) hi
        else true

end LoadScenario.Text
