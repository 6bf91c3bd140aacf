import TreeMacros.Evaluation.Coercion

/-! # Templates

A quoted node is a template: it stands for itself, apart from its holes. A hole is a curly form
headed by `unquote` or `$`; its second child is evaluated and what it gives takes the place of the
hole. Several nodes are spliced into the bracket around the hole, but cannot be the operand of an
operation.
-/

namespace TreeMacros

/-- Whether a node is a hole in a template. -/
def Node.isHole (node : Node) : Bool :=
  node.isHeaded "unquote" || node.isHeaded "$"

/-- What takes the place of a hole with the given children. A hole without an expression counts as
    a hole for null. -/
def fillHole (level : Level) (scope : Scope) (children : List Node) (loc : Option Span) :
    Eval Expansion := do
  let value ← level.eval (children.getD 1 (.ident "null")) scope
  Eval.locating loc value.toExpansion

mutual

/-- A template with its holes filled, from left to right. -/
def Node.filled (level : Level) (scope : Scope) : Node → Eval Expansion
  | .leaf kind text loc => return .node (.leaf kind text loc)
  | .binop left operator right loc => do
    match ← left.filled level scope, ← right.filled level scope with
    | .node left, .node right => return .node (.binop left operator right loc)
    | _, _ => Eval.fail .unquotedOperand loc
  | .bracket kind children loc =>
    if (Node.bracket kind children loc).isHole then fillHole level scope children loc
    else do return .node (.bracket kind (← filledAll level scope children) loc)

/-- The nodes that take the place of templates in a row. -/
def filledAll (level : Level) (scope : Scope) : List Node → Eval (List Node)
  | [] => return []
  | node :: rest => do
    let expansion ← node.filled level scope
    return expansion.toList ++ (← filledAll level scope rest)

end

end TreeMacros
