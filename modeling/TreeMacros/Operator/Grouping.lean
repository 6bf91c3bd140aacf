import TreeMacros.Fault
import TreeMacros.Node
import TreeMacros.Operator

/-! # Grouping operators

A list of nodes with loose operators between them is folded into binary operations by priority.
Operands wait on one stack and operators on another. Two operands without an operator between
them belong to two statements, so the first of them is finished before the second begins. The
children of a bracket are grouped in turn.
-/

namespace TreeMacros

/-- An operator that waits for its right operand. -/
structure PendingOperator where
  operator : String
  loc : Option Span

namespace PendingOperator

/-- The operation of a waiting operator, located from its first part to its last. -/
def apply (pending : PendingOperator) (left right : Node) : Node :=
  .binop left pending.operator right (Span.join (Span.join left.loc pending.loc) right.loc)

end PendingOperator

namespace Grouping

/-- Let the waiting operators that precede `next` take their operands. Operands and operators are
    stacks, the last one first. -/
def applyPreceding (next : OperatorInfo) (operands : List Node) :
    List PendingOperator → Except Fault (List Node × List PendingOperator)
  | [] => .ok (operands, [])
  | pending :: waiting =>
    if (operatorInfo pending.operator).precedes next then
      match operands with
      | right :: left :: operands =>
        applyPreceding next (pending.apply left right :: operands) waiting
      | _ => .error ⟨.missingOperand, none, none, none⟩
    else .ok (operands, pending :: waiting)

/-- Let all waiting operators take their operands. -/
def applyAll (operands : List Node) : List PendingOperator → Except Fault (List Node)
  | [] => .ok operands
  | pending :: waiting =>
    match operands with
    | right :: left :: operands => applyAll (pending.apply left right :: operands) waiting
    | _ => .error ⟨.danglingOperator pending.operator, none, none, none⟩

end Grouping

open Grouping

mutual

/-- Group the children of a bracket; any other node is an operand as it is. -/
def Node.grouped : Node → Except Fault Node
  | .bracket kind children loc => do
    let children ← groupFrom [] [] true children
    return .bracket kind children loc
  | node => .ok node

/-- Group the rest of a list, given the stacks and whether the last node was an operand. -/
def groupFrom (operands : List Node) (waiting : List PendingOperator) (afterOperand : Bool) :
    List Node → Except Fault (List Node)
  | [] => do
    let operands ← applyAll operands waiting
    return operands.reverse
  | .leaf .operator text loc :: rest => do
    let (operands, waiting) ← applyPreceding (operatorInfo text) operands waiting
    groupFrom operands (⟨text, loc⟩ :: waiting) false rest
  | node :: rest =>
    if afterOperand then do
      let operands ← applyAll operands waiting
      let operand ← node.grouped
      groupFrom (operand :: operands) [] true rest
    else do
      let operand ← node.grouped
      groupFrom (operand :: operands) waiting true rest

end

/-- Fold the loose operators of a list of nodes into binary operations. -/
def groupOperators (nodes : List Node) : Except Fault (List Node) :=
  groupFrom [] [] true nodes

end TreeMacros
