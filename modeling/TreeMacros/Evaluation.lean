import TreeMacros.Fault
import TreeMacros.Registry
import TreeMacros.Value.Text

/-! # Evaluation

Evaluating a piece of a macro body changes the store and ends in one of four ways: with a value,
with a value that `return` sends outwards, with a fault, or not at all. Not ending is an outcome of
its own here. A loop is given a number of turns, the machine's patience; a text that is infinite
and a range that never reaches its end are recognised as such or run out of patience too.

A `Machine` is what stays fixed during evaluation. A `Level` is what evaluation at one depth can
ask of the depth below: to evaluate a node, to call a closure, or to run a macro.
-/

namespace TreeMacros

/-- What can go on forever. -/
inductive Endless where
  /-- A loop whose condition stays true. -/
  | loop
  /-- A range that does not reach its end. -/
  | range
  /-- The text of a list that contains itself. -/
  | text
  deriving Repr, DecidableEq, Inhabited

/-- Why there is no result. -/
inductive Failure where
  | fault (fault : Fault)
  | endless (what : Endless)
  deriving Repr, DecidableEq, Inhabited

namespace Failure

/-- Blame a fault on a place, unless it already has one. -/
def locate (span : Option Span) : Failure → Failure
  | fault f => fault (f.locate span)
  | endless what => endless what

end Failure

/-- What ends evaluation before its value is there. -/
inductive Unwind where
  /-- A value on its way to the nearest function or macro. -/
  | returned (value : Value)
  | failed (failure : Failure)
  deriving Inhabited

namespace Unwind

/-- The failure that an unwinding is where nothing catches a returned value. -/
def failure : Unwind → Failure
  | returned _ => .fault { cause := .escapedReturn }
  | failed failure => failure

end Unwind

/-- A computation on the store that may be ended early. The store keeps what was done before. -/
abbrev Eval := EStateM Unwind Store

namespace Eval

variable {α : Type}

/-! ## Ending early -/

/-- End with a fault, blamed on `span`. -/
def fail (cause : Cause) (span : Option Span := none) : Eval α :=
  throw (.failed (.fault { cause, span }))

/-- Never end. -/
def forever (what : Endless) : Eval α :=
  throw (.failed (.endless what))

/-- A result that may be a fault. -/
def ofExcept : Except Fault α → Eval α
  | .ok a => pure a
  | .error fault => throw (.failed (.fault fault))

/-- Blame a fault of the computation on `span`, unless it already has a place. -/
def locating (span : Option Span) (action : Eval α) : Eval α :=
  tryCatch action fun
    | .failed failure => throw (.failed (failure.locate span))
    | unwind => throw unwind

/-- Let a returned value end the computation like any other value. -/
def catchReturn (action : Eval Value) : Eval Value :=
  tryCatch action fun
    | .returned value => pure value
    | unwind => throw unwind

/-! ## The store -/

/-- Make a list. -/
def newList (items : Array Value) : Eval Value := do
  return .list (← modifyGet (·.newList items))

/-- Make a list of nodes. -/
def newNodeList (nodes : List Node) : Eval Value :=
  newList (nodes.map Value.node).toArray

/-- The items of a list. -/
def items (id : ListId) : Eval (Array Value) := do
  return (← get).items id

/-- Change the items of a list. -/
def modifyList (id : ListId) (change : Array Value → Array Value) : Eval Unit :=
  modify (·.modifyList id change)

/-- Make a closure. -/
def newClosure (closure : Closure) : Eval Value := do
  return .closure (← modifyGet Store.newIdentity) closure

/-- Make a reference to a native function. -/
def newNative (native : Native) : Eval Value := do
  return .native (← modifyGet Store.newIdentity) native

/-- Make the scope of a frame without surroundings. -/
def newScope : Eval Scope := do
  return ⟨← modifyGet Store.newFrame, []⟩

/-- Make a new frame inside a scope. -/
def newFrameIn (scope : Scope) : Eval Scope := do
  return scope.within (← modifyGet Store.newFrame)

/-- Bind a name in the innermost frame. -/
def define (scope : Scope) (name : String) (value : Value) : Eval Unit :=
  modify (·.define scope name value)

/-- Assign to a name. -/
def assign (scope : Scope) (name : String) (value : Value) : Eval Unit :=
  modify (·.assign scope name value)

/-- The value of a name. -/
def lookup (scope : Scope) (name : String) (span : Option Span := none) : Eval Value := do
  match (← get).lookup scope name with
  | some value => return value
  | none => fail (.unknownSymbol name) span

/-- The text of a value. -/
def textOf (value : Value) : Eval String := do
  match value.text? (← get) with
  | some text => return text
  | none => forever .text

end Eval

/-- What stays fixed during evaluation. -/
structure Machine where
  registry : Registry := {}
  services : Services := .plain
  /-- How deeply evaluation may be nested. -/
  maxDepth : Nat := 512
  /-- Whether the time for evaluation is over. -/
  deadlinePassed : Bool := false
  /-- How many turns a loop may take before it counts as endless. -/
  patience : Nat := Nat.pow 2 64

/-- What can be asked of one depth of evaluation. -/
structure Level where
  /-- Evaluate a node. -/
  eval : Node → Scope → Eval Value
  /-- Call a closure. -/
  invoke : Closure → List Value → Eval Value
  /-- Run a macro on argument nodes. -/
  run : Definition → List Node → Eval Expansion

namespace Level

/-- Evaluate statements in order; the value is that of the last one, or null. -/
def evalAll (level : Level) (body : List Node) (scope : Scope) (value : Value := .null) :
    Eval Value :=
  body.foldlM (fun _ statement => level.eval statement scope) value

/-- The values of nodes in order. -/
def evalEach (level : Level) (nodes : List Node) (scope : Scope) : Eval (List Value) :=
  nodes.mapM (level.eval · scope)

end Level

end TreeMacros
