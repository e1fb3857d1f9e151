/-!
# Sets of characters as sorted ranges

A property of characters is a list of inclusive ranges of code points, in rising order and without
overlap. Membership walks the list and stops at the first range above the code point, so a
character of the first block is decided by the first few ranges whatever the length of the table.
-/

namespace FieldSearch.Text

/-- Inclusive ranges of code points, in rising order. -/
abbrev Ranges := List (Nat × Nat)

/-- Whether a code point lies in one of the ranges. -/
def Ranges.contains : Ranges → Nat → Bool
  | [], _ => false
  | (low, high) :: rest, point =>
      if point < low then false
      else if point ≤ high then true
      else Ranges.contains rest point

end FieldSearch.Text
