import TreeMacros.Json.Printer
import TreeMacros.Wire.Node

/-! # Calls to the matcher

How a match stands in generated code: a call to the matcher with the text of the scrutinee and the
pattern as JSON.
-/

namespace TreeMacros

/-- The name of the matcher in generated code. -/
def matcherName : String := "__mr_matchPattern"

/-- The call that matches an expression against a pattern. -/
def matchCall (expression : String) (pattern : Node) : String :=
  matcherName ++ "(" ++ expression ++ ", " ++ pattern.toJson.print ++ ")"

end TreeMacros
