import TreeMacros.Evaluation.Running
import TreeMacros.Wire.Exchange

/-! # Equality of nodes

Nodes are compared part by part, locations included, and so is what is built from them: an outcome
of a macro can be compared with an expected one.
-/

namespace TreeMacros

namespace Node

mutual

/-- Compare two nodes. -/
def decideEq : (node other : Node) → Decidable (node = other)
  | leaf kind text loc, leaf kind' text' loc' =>
    decidable_of_iff (kind = kind' ∧ text = text' ∧ loc = loc') (by simp)
  | binop left operator right loc, binop left' operator' right' loc' =>
    have := decideEq left left'
    have := decideEq right right'
    decidable_of_iff (left = left' ∧ operator = operator' ∧ right = right' ∧ loc = loc') (by simp)
  | bracket kind children loc, bracket kind' children' loc' =>
    have := decideEqAll children children'
    decidable_of_iff (kind = kind' ∧ children = children' ∧ loc = loc') (by simp)
  | leaf .., binop .. | leaf .., bracket .. => isFalse (by simp)
  | binop .., leaf .. | binop .., bracket .. => isFalse (by simp)
  | bracket .., leaf .. | bracket .., binop .. => isFalse (by simp)

/-- Compare two lists of nodes. -/
def decideEqAll : (nodes others : List Node) → Decidable (nodes = others)
  | [], [] => isTrue rfl
  | node :: rest, other :: others =>
    have := decideEq node other
    have := decideEqAll rest others
    decidable_of_iff (node = other ∧ rest = others) (by simp)
  | [], _ :: _ | _ :: _, [] => isFalse (by simp)

end

instance : DecidableEq Node := decideEq

end Node

deriving instance DecidableEq for Expansion
deriving instance DecidableEq for Definition, Record, Request, Response, WorkerRequest, WorkerReply

/-- Compare two outcomes. -/
instance decidableEqExcept {ε α : Type} [DecidableEq ε] [DecidableEq α] :
    DecidableEq (Except ε α)
  | .ok value, .ok other => decidable_of_iff (value = other) (by simp)
  | .error failure, .error other => decidable_of_iff (failure = other) (by simp)
  | .ok _, .error _ | .error _, .ok _ => isFalse (by simp)

end TreeMacros
