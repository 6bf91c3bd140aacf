import TreeMacros.Executor

/-! # Expansion

A program is walked in order. A macro definition is registered and leaves nothing behind. A call
of a registered macro is replaced by what the macro gives, which is walked in turn, one level
deeper. Everything else stays, with its parts expanded. The registry keeps what was registered,
also when expansion fails.

An expander waits for each macro or lets a worker run it meanwhile. Both walk alike; they differ
in when they look whether an operand is a single node.
-/

namespace TreeMacros

/-- How an expander goes about its work. -/
inductive Pacing where
  /-- It waits for each macro, and checks an operand before it turns to the next one. -/
  | blocking
  /-- Macros run on a worker, and both operands are expanded before they are checked. -/
  | concurrent
  deriving Repr, DecidableEq, Inhabited

/-- What stays fixed during expansion. -/
structure Expander where
  executor : Executor
  services : Services := .plain
  /-- How many expansions may be nested. -/
  maxDepth : Nat := 128
  pacing : Pacing := .blocking

/-- A computation that may register macros and may fail. -/
abbrev Expanding := EStateM Failure Registry

namespace Expanding

variable {α : Type}

/-- Fail, blaming `span`. -/
def fail (cause : Cause) (span : Option Span) : Expanding α :=
  throw (.fault { cause, span })

/-- A result that may be a fault. -/
def ofExcept : Except Fault α → Expanding α
  | .ok a => pure a
  | .error fault => throw (.fault fault)

end Expanding

/-! ## Definitions -/

/-- The names of parameter nodes. -/
def definedParameters (params : List Node) : Except Fault (List String) :=
  params.mapM fun param =>
    match param.ident? with
    | some name => .ok name
    | none => .error { cause := .definitionParameterNames, span := param.loc }

/-- The definition that a node is, if it starts like one and has a body. -/
def Node.definition? (node : Node) : Except Fault (Option Record) :=
  match node with
  | .bracket .curly (first :: second :: name :: params :: body) loc =>
    if first.isIdent "def" && second.isIdent "macro" && !body.isEmpty then
      match name.ident?, params with
      | some name, .bracket .square params _ => do
        return some ⟨name, ← definedParameters params, body⟩
      | _, _ => .error { cause := .definitionForm, span := loc }
    else .ok none
  | _ => .ok none

/-! ## Calls -/

/-- The call of a registered macro that a node is. -/
def Node.call? (registry : Registry) : Node → Option (String × Entry × List Node)
  | .bracket .curly (head :: arguments) _ => do
    let name ← head.ident?
    return (name, ← registry.get? name, arguments)
  | _ => none

namespace Expander

variable (expander : Expander)

/-- Run a registered macro. -/
def runEntry (registry : Registry) (name : String) (arguments : List Node) :
    Entry → Except Failure Expansion
  | .native run => (run arguments expander.services).mapError .fault
  | .defined definition =>
    expander.executor.run { name, definition, arguments, registry } expander.services

/-- The nodes that a call gives, if the node is a call. A failure is blamed on the call. -/
def expandCall? (registry : Registry) (node : Node) : Except Failure (Option (List Node)) :=
  match node.call? registry with
  | none => .ok none
  | some (name, entry, arguments) =>
    match expander.runEntry registry name arguments entry with
    | .ok expansion => .ok (some expansion.toList)
    | .error failure => .error (failure.locate node.loc)

/-- Register the definition that a node is. Whether it is one. -/
def define? (node : Node) : Expanding Bool := do
  match ← Expanding.ofExcept node.definition? with
  | none => return false
  | some record =>
    modify fun registry => (registry.register record.name (.defined record.definition)).1
    return true

/-- The single node of an operand. -/
def single (loc : Option Span) : List Node → Expanding Node
  | [node] => return node
  | nodes => Expanding.fail (.operandCount nodes.length) loc

/-! ## The walk

`deeper` expands the nodes that a call at the given place produced. -/

variable (deeper : Option Span → List Node → Expanding (List Node))

mutual

/-- The nodes that take the place of a node. -/
def expandNode : Node → Expanding (List Node)
  | .leaf kind text loc => return [.leaf kind text loc]
  | .binop left operator right loc => do
    match expander.pacing with
    | .blocking =>
      let left ← single loc (← expandNode left)
      let right ← single loc (← expandNode right)
      return [.binop left operator right loc]
    | .concurrent =>
      let left ← expandNode left
      let right ← expandNode right
      return [.binop (← single loc left) operator (← single loc right) loc]
  | .bracket kind children loc => do
    if ← define? (.bracket kind children loc) then return []
    match expander.expandCall? (← get) (.bracket kind children loc) with
    | .error failure => throw failure
    | .ok (some nodes) => deeper loc nodes
    | .ok none => return [.bracket kind (← expandAll children) loc]

/-- The nodes that take the place of nodes in a row. -/
def expandAll : List Node → Expanding (List Node)
  | [] => return []
  | node :: rest => do
    let nodes ← expandNode node
    return nodes ++ (← expandAll rest)

end

/-- Expand what a call produced, if expansions may still be nested `depth` deep. -/
def expandDeeper (expander : Expander) : Nat → Option Span → List Node → Expanding (List Node)
  | 0, loc, _ => Expanding.fail (.expansionDepthExceeded expander.maxDepth) loc
  | depth + 1, _, nodes => expander.expandAll (expandDeeper expander depth) nodes

/-- Expand a program. -/
def expandProgram (expander : Expander) (program : List Node) : Expanding (List Node) :=
  expander.expandAll (expander.expandDeeper expander.maxDepth) program

end Expander

end TreeMacros
