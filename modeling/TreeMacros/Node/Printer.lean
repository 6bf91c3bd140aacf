import TreeMacros.Json.Quoted
import TreeMacros.Node

/-! # Printing nodes

The source-like text of a node. Strings are quoted as in JSON, the operands of an operation stand
around its operator, and the children of a bracket are separated by one space.
-/

namespace TreeMacros.Node

mutual

/-- The source-like text of a node. -/
def pretty : Node → String
  | leaf .string text _ => Json.Quoted.encode text
  | leaf _ text _ => text
  | binop left operator right _ => left.pretty ++ " " ++ operator ++ " " ++ right.pretty
  | bracket kind children _ => kind.delimiters.1 ++ prettyAll children ++ kind.delimiters.2

/-- Nodes with spaces between them. -/
def prettyAll : List Node → String
  | [] => ""
  | [node] => node.pretty
  | node :: next :: rest => node.pretty ++ " " ++ prettyAll (next :: rest)

end

end TreeMacros.Node
