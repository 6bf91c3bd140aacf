import TreeMacros.Evaluation.Form

/-! # Running macros

A machine evaluates down to its depth limit. Evaluating a node, calling a closure and running a
macro each take one level of depth; the level below the last one refuses, and a machine whose time
is over refuses at every level.
-/

namespace TreeMacros

/-! ## Binding arguments -/

/-- Assign arguments to the parameters of a closure. A missing argument is null. -/
def assignParameters (scope : Scope) : List String → List Value → Eval Unit
  | [], _ => return
  | name :: names, arguments => do
    Eval.assign scope name (arguments.headD .null)
    assignParameters scope names arguments.tail

/-- Define the parameters of a macro one by one. A missing argument is the identifier `null`. -/
def defineParameters (scope : Scope) : List String → List Node → Eval Unit
  | [], _ => return
  | name :: names, arguments => do
    Eval.define scope name (.node (arguments.headD (.ident "null")))
    defineParameters scope names arguments.tail

/-- Define the parameters of a macro. A single one stands for the list of all arguments. -/
def bindArguments (scope : Scope) (params : List String) (arguments : List Node) : Eval Unit := do
  match params with
  | [only] => Eval.define scope only (← Eval.newNodeList arguments)
  | params => defineParameters scope params arguments

/-- Define the registered macros as functions. They hide parameters of the same name. -/
def bindRegistry (scope : Scope) (registry : Registry) : Eval Unit :=
  registry.entries.forM fun (name, entry) => do
    Eval.define scope name (← Eval.newNative (.registered name entry))

namespace Level

/-- Evaluate the body of a closure with its parameters assigned. -/
def callClosure (level : Level) (closure : Closure) (arguments : List Value) : Eval Value := do
  let scope ← Eval.newFrameIn closure.scope
  assignParameters scope closure.params arguments
  match closure.kind with
  | .function => Eval.catchReturn (level.evalAll closure.body scope)
  | .lambda => level.evalAll closure.body scope

/-- Evaluate the body of a macro in a scope of its own, and take its value as nodes. -/
def runDefinition (level : Level) (registry : Registry) (definition : Definition)
    (arguments : List Node) : Eval Expansion := do
  let scope ← Eval.newFrameIn (← Eval.newBaseScope)
  bindArguments scope definition.params arguments
  bindRegistry scope registry
  let value ← Eval.catchReturn (level.evalAll definition.body scope)
  value.toExpansion

end Level

namespace Machine

variable (machine : Machine)

/-- Why a machine refuses to go deeper. -/
def refusal : Cause :=
  if machine.deadlinePassed then .deadlinePassed else .depthExceeded machine.maxDepth

/-- Refuse if the time is over. -/
def inTime {α : Type} (span : Option Span) (action : Eval α) : Eval α :=
  if machine.deadlinePassed then Eval.fail .deadlinePassed span else action

/-- The level from which evaluation may be nested `depth` deep. -/
def level : Nat → Level
  | 0 =>
    { eval := fun node _ => Eval.fail machine.refusal node.loc
      invoke := fun _ _ => Eval.fail machine.refusal
      run := fun _ _ => Eval.fail machine.refusal }
  | depth + 1 =>
    { eval := fun node scope =>
        machine.inTime node.loc (machine.evalNode (level depth) node scope)
      invoke := fun closure arguments =>
        machine.inTime none ((level depth).callClosure closure arguments)
      run := fun definition arguments =>
        machine.inTime none ((level depth).runDefinition machine.registry definition arguments) }

/-- The outermost level. -/
def top : Level :=
  machine.level machine.maxDepth

/-- Run a macro on its own. Also the lines that it printed. -/
def execute (definition : Definition) (arguments : List Node) :
    Except Failure Expansion × Array String :=
  match machine.top.run definition arguments {} with
  | .ok expansion store => (.ok expansion, store.printed)
  | .error unwind store => (.error unwind.failure, store.printed)

/-- Run a macro on its own. -/
def run (definition : Definition) (arguments : List Node) : Except Failure Expansion :=
  (machine.execute definition arguments).1

end Machine

end TreeMacros
