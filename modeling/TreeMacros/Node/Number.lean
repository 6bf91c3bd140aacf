import TreeMacros.Decimal.Reader
import TreeMacros.Node

/-! # The number of a node -/

namespace TreeMacros.Node

/-- The number that a number node stands for; NaN if its text is none. -/
def number? : Node → Option Float
  | leaf .number text _ => some (Decimal.ofText text)
  | _ => none

end TreeMacros.Node
