import TreeMacros.Evaluation.Builtin
import TreeMacros.Evaluation.Operation
import TreeMacros.Evaluation.Template
import TreeMacros.Node.Number

/-! # Forms

What each kind of node means in a macro body, given the level below. A curly form whose head is
one of eight names has a meaning of its own; any other is a call. The functions take the children
of a form without its head.
-/

namespace TreeMacros

/-- The names that parameter nodes are. -/
def parameterNames (nodes : List Node) (cause : Cause) : Eval (List String) :=
  nodes.mapM fun node =>
    match node.ident? with
    | some name => return name
    | none => Eval.fail cause node.loc

/-- Define a function by name, parameters and body. -/
def defineFunction (loc : Option Span) (parts : List Node) (scope : Scope) : Eval Value :=
  match parts with
  | .leaf .identifier name _ :: .bracket .square params _ :: body => do
    let params ← parameterNames params .functionParameterNames
    let closure ← Eval.newClosure ⟨some name, params, body, scope, .function⟩
    Eval.assign scope name closure
    return closure
  | _ => Eval.fail .functionForm loc

namespace Level

variable (level : Level)

/-! ## Special forms -/

/-- Conditions, each before its branch; a single node at the end stands for all other cases. -/
def evalIf (scope : Scope) : List Node → Eval Value
  | [] => return .null
  | [fallback] => level.eval fallback scope
  | condition :: branch :: rest => do
    if (← level.eval condition scope).isTruthy then level.eval branch scope
    else evalIf scope rest

/-- A condition and the statements that it guards. -/
def evalWhen (scope : Scope) : List Node → Eval Value
  | [] => return .null
  | condition :: body => do
    if (← level.eval condition scope).isTruthy then level.evalAll body scope
    else return .null

/-- Evaluate the body as long as the condition is true. The value is that of the last statement. -/
def evalWhile (condition : Node) (body : List Node) (scope : Scope) (value : Value) :
    Nat → Eval Value
  | 0 => Eval.forever .loop
  | patience + 1 => do
    if (← level.eval condition scope).isTruthy then
      evalWhile condition body scope (← level.evalAll body scope value) patience
    else return value

/-- Evaluate the body for each of the items that the list has at the beginning. -/
def evalFor (loc : Option Span) (parts : List Node) (scope : Scope) : Eval Value := do
  match parts.head?.bind Node.ident? with
  | none => Eval.fail .loopVariable loc
  | some name =>
    let iterable ← match parts[1]? with
      | some node => level.eval node scope
      | none => Eval.newList #[]
    match iterable with
    | .list id =>
      (← Eval.items id).toList.foldlM (fun value item => do
        Eval.assign scope name item
        level.evalAll (parts.drop 2) scope value) .null
    | _ => Eval.fail .loopIterable loc

/-- Send a value to the nearest function or macro. -/
def evalReturn (parts : List Node) (scope : Scope) : Eval Value := do
  let value ← match parts.head? with
    | some node => level.eval node scope
    | none => pure .null
  throw (.returned value)

/-- The nodes of templates. A single template may be a single node. -/
def evalQuote (parts : List Node) (scope : Scope) : Eval Value := do
  match ← parts.mapM (·.filled level scope) with
  | [] => return .node (.square [])
  | [expansion] => Value.ofExpansion expansion
  | expansions => Eval.newNodeList (expansions.flatMap Expansion.toList)

/-! ## Calls and members -/

/-- The name that stands after a dot: an identifier, or the text of a value. -/
def memberKey (node : Node) (scope : Scope) : Eval String := do
  match node.ident? with
  | some name => return name
  | none => Eval.textOf (← level.eval node scope)

/-- The function that the head of a call gives. -/
def callTarget (head : Node) (scope : Scope) : Eval Value := do
  match head with
  | .binop left "." right loc =>
    let receiver ← level.eval left scope
    let key ← level.memberKey right scope
    let target := (← receiver.member? key).getD .null
    if target.isCallable then return target else Eval.fail (.memberTarget key) loc
  | head =>
    let target ← level.eval head scope
    if target.isCallable then return target else Eval.fail .callTarget head.loc

/-- The function after a pipe. A name is looked up even if it stands for a constant elsewhere. -/
def pipeTarget (node : Node) (scope : Scope) : Eval Value := do
  match node.ident? with
  | some name =>
    let target ← Eval.lookup scope name node.loc
    if target.isCallable then return target else Eval.fail (.pipeTargetNamed name) node.loc
  | none =>
    let target ← level.eval node scope
    if target.isCallable then return target else Eval.fail .pipeTarget node.loc

end Level

namespace Machine

variable (machine : Machine) (level : Level)

/-- A form with a head. -/
def evalForm (head : Node) (rest : List Node) (loc : Option Span) (scope : Scope) : Eval Value :=
  match head.ident? with
  | some "if" => level.evalIf scope rest
  | some "do" => level.evalAll rest scope
  | some "when" => level.evalWhen scope rest
  | some "while" =>
    match rest with
    | [] => return .null
    | condition :: body => level.evalWhile condition body scope .null machine.patience
  | some "for" => level.evalFor loc rest scope
  | some "fun" => defineFunction loc rest scope
  | some "return" => level.evalReturn rest scope
  | some "quote" => level.evalQuote rest scope
  | _ => do
    let target ← level.callTarget head scope
    let arguments ← level.evalEach rest scope
    target.call machine level arguments

/-- A binary operation. -/
def evalBinop (left : Node) (operator : String) (right : Node) (loc : Option Span)
    (scope : Scope) : Eval Value := do
  match operator with
  | "=" =>
    match left.ident? with
    | none => Eval.fail .assignmentTarget left.loc
    | some name =>
      let value ← level.eval right scope
      Eval.assign scope name value
      return value
  | "->" =>
    let params ← match left with
      | .leaf .identifier name _ => pure [name]
      | .bracket .square nodes _ => parameterNames nodes .lambdaParameterNames
      | other => Eval.fail .lambdaParameters other.loc
    Eval.newClosure ⟨none, params, [right], scope, .lambda⟩
  | "|" =>
    let value ← level.eval left scope
    let target ← level.pipeTarget right scope
    target.call machine level [value]
  | "." =>
    let receiver ← level.eval left scope
    let key ← level.memberKey right scope
    return (← receiver.member? key).getD .null
  | operator =>
    match ValueOperator.ofSymbol? operator with
    | some operation =>
      let leftValue ← level.eval left scope
      let rightValue ← level.eval right scope
      Eval.locating loc (operation.apply leftValue rightValue)
    | none => Eval.fail (.unsupportedOperator operator) loc

/-- The value of a node. -/
def evalNode (node : Node) (scope : Scope) : Eval Value :=
  match node with
  | .leaf .identifier name loc =>
    match name with
    | "true" => return .bool true
    | "false" => return .bool false
    | "null" => return .null
    | name => Eval.lookup scope name loc
  | .leaf .number text _ => return .number (Decimal.ofText text)
  | .leaf .string text _ | .leaf .operator text _ => return .text text
  | .binop left operator right loc => machine.evalBinop level left operator right loc scope
  | .bracket .square children _ => do Eval.newList (← level.evalEach children scope).toArray
  | .bracket .round [] _ => return .null
  | .bracket .round [child] _ => level.eval child scope
  | .bracket .round children _ => do Eval.newList (← level.evalEach children scope).toArray
  | .bracket .curly [] loc => Eval.fail .callTarget loc
  | .bracket .curly (head :: rest) loc => machine.evalForm level head rest loc scope
  | .bracket .sequence children _ => level.evalAll children scope

end Machine

end TreeMacros
