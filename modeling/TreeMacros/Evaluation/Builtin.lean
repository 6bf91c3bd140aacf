import TreeMacros.Evaluation.Coercion
import TreeMacros.Evaluation.Member

/-! # Built-in functions

The functions that every macro body starts with. They are lenient: a missing argument is null, and
where a list is due, anything else counts as an empty list or yields zero or null. `map` calls
back, so it needs the level below; called by itself it gets one argument, which holds no list,
and yields a new empty list.
-/

namespace TreeMacros

/-- An argument; a missing one is null. -/
def argument (arguments : List Value) (place : Nat) : Value :=
  arguments.getD place .null

/-- Whether a node is of the type that a value names: a node maker, its name, or `Node` for any
    node. -/
def isOfType (value type : Value) : Bool :=
  match value, type with
  | .node n, .native _ (.maker maker) => maker == .ofNode n
  | .node n, .text name => name == "Node" || name == (NodeMaker.ofNode n).name
  | _, _ => false

namespace NodeMaker

/-- Make a node. -/
def call (maker : NodeMaker) (arguments : List Value) : Eval Value := do
  match maker with
  | leaf kind => return .node (.leaf kind (← Eval.textOf (argument arguments 0)) none)
  | binop =>
    let left ← (argument arguments 0).toNode
    let right ← (argument arguments 2).toNode
    return .node (.binary left (← Eval.textOf (argument arguments 1)) right)
  | bracket kind =>
    return .node (.bracket kind ((argument arguments 0).nodeItems (← get)) none)

end NodeMaker

/-- The numbers from `start` up to and without `stop`, one apart. None at all if more than
    `patience` of them are not enough. -/
def numbersFrom? (start stop : Float) (found : Array Value) : Nat → Option (Array Value)
  | 0 => if start < stop then none else some found
  | patience + 1 =>
    if start < stop then numbersFrom? (start + 1) stop (found.push (.number start)) patience
    else some found

namespace Builtin

/-- Call a builtin other than `map`. -/
def call (machine : Machine) (builtin : Builtin) (arguments : List Value) : Eval Value := do
  let first := argument arguments 0
  match builtin with
  | regular => Eval.newNodeList (machine.services.regular (first.nodeItems (← get)))
  | group =>
    Eval.newNodeList (← Eval.ofExcept (machine.services.group (first.nodeItems (← get))))
  | parse =>
    match first with
    | .text source => Eval.newNodeList (← Eval.ofExcept (machine.services.parse source))
    | _ => Eval.fail .notText
  | length =>
    match first with
    | .list id => return .number (Float.ofNat (← Eval.items id).size)
    | .text s => return .number (Float.ofNat s.length)
    | _ => return .number 0
  | text => return .text (← Eval.textOf first)
  | integer => return .number (Decimal.integerPrefix (← Eval.textOf first))
  | float => return .number (Decimal.numberPrefix (← Eval.textOf first))
  | list => Eval.newList (first.listItems (← get))
  | Builtin.first => return (first.listItems (← get))[0]?.getD .null
  | rest => Eval.newList ((first.listItems (← get)).toList.drop 1).toArray
  | reversed => Eval.newList (first.listItems (← get)).reverse
  | push =>
    match first with
    | .list id =>
      Eval.modifyList id (·.push (argument arguments 1))
      return .number (Float.ofNat (← Eval.items id).size)
    | _ => return .number 0
  | pop =>
    match first with
    | .list id =>
      let items ← Eval.items id
      Eval.modifyList id (·.pop)
      return items.back?.getD .null
    | _ => return .null
  | range =>
    let (start, stop) := match arguments[1]? with
      | some stop => (first.toNumber, stop.toNumber)
      | none => (0, first.toNumber)
    match numbersFrom? start stop #[] machine.patience with
    | some numbers => Eval.newList numbers
    | none => Eval.forever .range
  | map => Eval.newList #[]
  | print =>
    let texts ← arguments.mapM Eval.textOf
    modify (·.print (" ".intercalate texts))
    return .null
  | assert =>
    if first.isTruthy then return .null
    else
      let message := argument arguments 1
      if message.isTruthy then Eval.fail (.assertionFailed (some (← Eval.textOf message)))
      else Eval.fail (.assertionFailed none)
  | isInstance => return .bool (isOfType first (argument arguments 1))

end Builtin

namespace Native

/-- Call a registered macro. -/
def callEntry (machine : Machine) (level : Level) (entry : Entry) (arguments : List Value) :
    Eval Value := do
  let nodes ← arguments.mapM Value.toNode
  match entry with
  | .native run => Value.ofExpansion (← Eval.ofExcept (run nodes machine.services))
  | .defined definition => Value.ofExpansion (← level.run definition nodes)

/-- Call a native function that does not call back. -/
def callPlain (machine : Machine) (level : Level) (native : Native) (arguments : List Value) :
    Eval Value :=
  match native with
  | builtin b => b.call machine arguments
  | maker m => m.call arguments
  | listMethod method receiver => method.call receiver arguments
  | textMethod method receiver => method.call receiver arguments
  | registered _ entry => callEntry machine level entry arguments

end Native

/-- Call a function that `map` applies to each item. -/
def callEach (machine : Machine) (level : Level) (callee : Value) (item : Value) : Eval Value :=
  match callee with
  | .closure _ c => level.invoke c [item]
  | .native _ n => n.callPlain machine level [item]
  | other => Eval.fail (.notCallable other.typeName)

/-- Call the builtin `map`. -/
def callMap (machine : Machine) (level : Level) (arguments : List Value) : Eval Value := do
  match argument arguments 0, argument arguments 1 with
  | callee, .list id =>
    if callee.isCallable then
      let results ← (← Eval.items id).toList.mapM (callEach machine level callee)
      Eval.newList results.toArray
    else Eval.newList #[]
  | _, _ => Eval.newList #[]

/-- Call a function. -/
def Value.call (machine : Machine) (level : Level) (callee : Value) (arguments : List Value) :
    Eval Value :=
  match callee with
  | .closure _ c => level.invoke c arguments
  | .native _ (.builtin .map) => callMap machine level arguments
  | .native _ n => n.callPlain machine level arguments
  | other => Eval.fail (.notCallable other.typeName)

/-- Make the scope of a new frame that holds the builtins and the node makers. -/
def Eval.newBaseScope : Eval Scope := do
  let scope ← Eval.newScope
  Builtin.all.forM fun b => do Eval.define scope b.name (← Eval.newNative (.builtin b))
  NodeMaker.all.forM fun m => do Eval.define scope m.name (← Eval.newNative (.maker m))
  return scope

end TreeMacros
