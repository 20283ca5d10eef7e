/-!
# Sets of code points

A character class is a list of inclusive ranges in ascending order; membership stops at the first
range that begins beyond the code point.
-/

namespace ElixirClient.Text

/-- Membership of a code point in an ascending list of inclusive ranges. -/
def inRanges (code : Nat) : List (Nat × Nat) → Bool
  | [] => false
  | (low, high) :: rest => if code < low then false else code ≤ high || inRanges code rest

end ElixirClient.Text
