/-!
Membership of a number in ascending ranges, by halving.
-/

namespace WaybillBoard.Text

/-- Looks for `n` in the ranges at the places `low` to `high`, the last excluded, in at most `fuel`
halvings. -/
def inRangesBetween (ranges : Array (Nat × Nat)) (n : Nat) : Nat → Nat → Nat → Bool
  | 0, _, _ => false
  | fuel + 1, low, high =>
    if low < high then
      let mid := (low + high) / 2
      match ranges[mid]? with
      | none => false
      | some (first, last) =>
        if n < first then inRangesBetween ranges n fuel low mid
        else if last < n then inRangesBetween ranges n fuel (mid + 1) high
        else true
    else false

/-- Does one of the ascending ranges hold `n`? -/
def inRanges (ranges : Array (Nat × Nat)) (n : Nat) : Bool :=
  inRangesBetween ranges n (ranges.size + 1) 0 ranges.size

end WaybillBoard.Text
