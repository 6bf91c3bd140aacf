import TreeMacros.Evaluation.Running

/-! # Counting the depth

A machine evaluates by levels, so a run of it does not have to keep count of its depth. An evaluator
that lives on from one task to the next does. It counts one level deeper before it evaluates a
node, calls a closure or runs a macro, and one less when that has ended, whichever way. The count
stands in the store, so that the evaluator goes by what earlier tasks have left there.
-/

namespace TreeMacros

/-- What can be asked of an evaluator. -/
inductive Task where
  | eval (node : Node) (scope : Scope)
  | evalAll (body : List Node) (scope : Scope)
  | call (callee : Value) (arguments : List Value)
  | run (definition : Definition) (arguments : List Node)
  | fill (template : Node) (scope : Scope)

/-- What comes of a task, if it ends in a value: the value, or the nodes of a macro or template. -/
inductive Task.Product where
  | value (value : Value)
  | expansion (expansion : Expansion)
  deriving Inhabited

namespace Machine

variable (machine : Machine)

/-- Carry out a task on a level. -/
def perform (level : Level) : Task → Eval Task.Product
  | .eval node scope => return .value (← level.eval node scope)
  | .evalAll body scope => return .value (← level.evalAll body scope)
  | .call callee arguments => return .value (← callee.call machine level arguments)
  | .run definition arguments => return .expansion (← level.run definition arguments)
  | .fill template scope => return .expansion (← template.filled level scope)

/-- Do something one level deeper, if there is time and depth left for it. -/
def nested {α : Type} (span : Option Span) (action : Eval α) : Eval α := do
  if machine.deadlinePassed then Eval.fail .deadlinePassed span
  else if machine.maxDepth < (← get).depth + 1 then
    Eval.fail (.depthExceeded machine.maxDepth) span
  else
    modify Store.enter
    try action finally modify Store.leave

/-- Go one level deeper, and do the rest on another level. -/
def deeper (level : Level) : Level where
  eval node scope := machine.nested node.loc (machine.evalNode level node scope)
  invoke closure arguments := machine.nested none (level.callClosure closure arguments)
  run definition arguments :=
    machine.nested none (level.runDefinition machine.registry definition arguments)

/-- The evaluator that counts, which goes on inside itself at most `turns` times. -/
def counting : Nat → Level
  | 0 => machine.level 0
  | turns + 1 => machine.deeper (counting turns)

/-- The evaluator that counts. It never goes on inside itself more often than its limit allows. -/
def evaluator : Level :=
  machine.counting machine.maxDepth

end Machine

end TreeMacros
