/-! # Sets of characters

A set of characters as the places where membership changes: it starts at the first place, ends
before the second, and so on.
-/

namespace TreeMacros.Text

/-- Whether a character is in the set with the given places of change, which ascend. -/
def isWithin (boundaries : List Nat) (c : Char) : Bool :=
  (boundaries.takeWhile (· ≤ c.toNat)).length % 2 == 1

end TreeMacros.Text
