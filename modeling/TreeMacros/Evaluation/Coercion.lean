import TreeMacros.Decimal.Reader
import TreeMacros.Evaluation

/-! # Values as nodes and numbers

A macro body computes values; what leaves it are nodes. A node stays as it is, a primitive value
becomes the leaf that is written like it, and a list of nodes becomes square brackets, or where
several nodes have a place, these nodes.
-/

namespace TreeMacros

namespace Value

/-- The nodes of a list in which there is nothing else. -/
def nodes? (store : Store) : Value → Option (List Node)
  | list id => (store.items id).toList.mapM node?
  | _ => none

/-- The nodes of a list, whatever else is in it. -/
def nodeItems (store : Store) : Value → List Node
  | list id => (store.items id).toList.filterMap node?
  | _ => []

/-- The items of a list; anything else has none. -/
def listItems (store : Store) : Value → Array Value
  | list id => store.items id
  | _ => #[]

/-- A value as a number. -/
def toNumber : Value → Float
  | null => 0
  | bool value => if value then 1 else 0
  | number value => value
  | text value => Decimal.ofText value
  | _ => Decimal.nan

/-- A value as one node. -/
def toNode (value : Value) : Eval Node :=
  match value with
  | null => return .ident "null"
  | bool b => return .ident (if b then "true" else "false")
  | number x => return .number (Decimal.format x)
  | text s => return .string s
  | node n => return n
  | value => do
    match value.nodes? (← get) with
    | some nodes => return .square nodes
    | none => Eval.fail (.notNode (← Eval.textOf value))

/-- A value as what a macro produces. -/
def toExpansion (value : Value) : Eval Expansion := do
  match value, value.nodes? (← get) with
  | node n, _ => return .node n
  | _, some nodes => return .nodes nodes
  | value, none => return .node (← value.toNode)

/-- What a macro produced as a value. -/
def ofExpansion : Expansion → Eval Value
  | .node n => return node n
  | .nodes nodes => Eval.newNodeList nodes

end Value

end TreeMacros
