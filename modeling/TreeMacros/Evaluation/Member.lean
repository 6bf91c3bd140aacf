import TreeMacros.Evaluation
import TreeMacros.Text.Case
import TreeMacros.Text.Search

/-! # Members

What stands after a dot: the parts of a node, the length of a list or text, and their methods. A
method is a function bound to its receiver, so a method of a list changes the list it was taken
from. Only `push`, `pop` and `reverse` change a list.
-/

namespace TreeMacros

/-- The first argument, or null. -/
def firstArgument (arguments : List Value) : Value :=
  arguments.headD .null

/-- A list, or the characters of a text, between two bounds; empty if the first is not below the
    second. -/
def between {α : Type} (start stop : Nat) (items : List α) : List α :=
  (items.take stop).drop start

/-- A bound of a slice among `length` items. A negative bound counts from the end, a fraction is
    dropped, and what is no number stands for `absent`. -/
def sliceBound (bound : Option Value) (length absent : Nat) : Nat :=
  match bound.bind Value.number? with
  | none => absent
  | some x =>
    if x.isNaN then 0
    else if x < 0 then length - Binary.wholePart x
    else min (Binary.wholePart x) length

/-- The items between the bounds that the arguments of `slice` give. -/
def sliceOf {α : Type} (items : List α) (arguments : List Value) : List α :=
  between (sliceBound arguments[0]? items.length 0)
    (sliceBound arguments[1]? items.length items.length) items

namespace ListMethod

/-- The items that an argument of `concat` adds: the items of a list, or the argument itself. -/
def added (store : Store) : Value → Array Value
  | .list id => store.items id
  | value => #[value]

/-- Call a method of a list. -/
def call (method : ListMethod) (receiver : ListId) (arguments : List Value) : Eval Value := do
  match method with
  | push =>
    Eval.modifyList receiver (· ++ arguments)
    return .number (Float.ofNat (← Eval.items receiver).size)
  | pop =>
    let items ← Eval.items receiver
    Eval.modifyList receiver (·.pop)
    return items.back?.getD .null
  | slice =>
    Eval.newList (sliceOf (← Eval.items receiver).toList arguments).toArray
  | concat =>
    let store ← get
    Eval.newList (arguments.foldl (fun items value => items ++ added store value)
      (store.items receiver))
  | includes =>
    return .bool ((← Eval.items receiver).any (·.same (firstArgument arguments)))
  | indexOf =>
    match (← Eval.items receiver).findIdx? (·.same (firstArgument arguments)) with
    | some place => return .number (Float.ofNat place)
    | none => return .number (-1)
  | join =>
    let separator := match arguments.head? with
      | some (.text s) => s
      | _ => ","
    let texts ← (← Eval.items receiver).toList.mapM fun item =>
      match item with
      | .null => pure ""
      | item => Eval.textOf item
    return .text (separator.intercalate texts)
  | reverse =>
    Eval.modifyList receiver (·.reverse)
    return .list receiver

end ListMethod

namespace TextMethod

/-- The text that the first argument of a method is; an absent one has a text too. -/
def argumentText (arguments : List Value) : Eval (List Char) := do
  match arguments.head? with
  | some value => return (← Eval.textOf value).toList
  | none => return "undefined".toList

/-- Call a method of a text. -/
def call (method : TextMethod) (receiver : String) (arguments : List Value) : Eval Value := do
  match method with
  | upper => return .text (Text.upper receiver)
  | lower => return .text (Text.lower receiver)
  | startsWith => return .bool ((← argumentText arguments).isPrefixOf receiver.toList)
  | endsWith => return .bool (Text.isAtEnd (← argumentText arguments) receiver.toList)
  | includes => return .bool (Text.occursIn (← argumentText arguments) receiver.toList)
  | split =>
    match arguments.head? with
    | none | some .null => Eval.newList #[.text receiver]
    | _ =>
      let pieces := Text.split (← argumentText arguments) receiver.toList
      Eval.newList (pieces.map fun piece => Value.text (String.ofList piece)).toArray
  | slice => return .text (String.ofList (sliceOf receiver.toList arguments))

end TextMethod

/-- A part of a node by name. -/
def Node.part? (node : Node) (name : String) : Eval (Option Value) := do
  match name, node with
  | "kind", node => return some (.text node.kindName)
  | "value", .leaf _ text _ => return some (.text text)
  | "op", .binop _ operator _ _ => return some (.text operator)
  | "left", .binop left _ _ _ => return some (.node left)
  | "right", .binop _ _ right _ => return some (.node right)
  | "nodes", .bracket _ children _ => return some (← Eval.newNodeList children)
  | _, _ => return none

/-- A member of a value by name, if there is one. -/
def Value.member? (receiver : Value) (name : String) : Eval (Option Value) := do
  match receiver with
  | .node n => n.part? name
  | .list id =>
    if name == "length" then return some (.number (Float.ofNat (← Eval.items id).size))
    else match ListMethod.all.find? (·.name == name) with
      | some method => return some (← Eval.newNative (.listMethod method id))
      | none => return none
  | .text s =>
    if name == "length" then return some (.number (Float.ofNat s.length))
    else match TextMethod.all.find? (·.name == name) with
      | some method => return some (← Eval.newNative (.textMethod method s))
      | none => return none
  | _ => return none

end TreeMacros
