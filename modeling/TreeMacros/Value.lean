import TreeMacros.Definition

/-! # Values

What macro bodies compute with. A list is a reference into the store, so that all who hold it see
it change. Functions are told apart by an identity, which each gets when it is made: two closures
of the same text are not the same function.
-/

namespace TreeMacros

/-- The place of a list in the store. -/
abbrev ListId := Nat

/-- The place of a frame of variables in the store. -/
abbrev FrameId := Nat

/-- What tells two functions apart. -/
abbrev Identity := Nat

/-- The frames that a piece of code sees, the innermost one first. -/
structure Scope where
  frame : FrameId
  outer : List FrameId
  deriving Repr, DecidableEq, Inhabited

namespace Scope

/-- The frames, from the innermost outwards. -/
def frames (scope : Scope) : List FrameId :=
  scope.frame :: scope.outer

/-- The scope of a new frame inside this one. -/
def within (scope : Scope) (frame : FrameId) : Scope :=
  ⟨frame, scope.frames⟩

end Scope

/-- Whether `return` ends a closure's own call or goes on outwards. -/
inductive ClosureKind where
  /-- Written with an arrow; `return` goes on outwards. -/
  | lambda
  /-- Written with `fun`; `return` ends the call. -/
  | function
  deriving Repr, DecidableEq, Inhabited

/-- A function written in a macro body, with the scope it was written in. -/
structure Closure where
  name : Option String
  params : List String
  body : List Node
  scope : Scope
  kind : ClosureKind
  deriving Inhabited

/-- The functions that every macro body starts with, node makers apart. -/
inductive Builtin where
  | regular
  | group
  | parse
  | length
  | text
  | integer
  | float
  | list
  | first
  | rest
  | reversed
  | push
  | pop
  | range
  | map
  | print
  | assert
  | isInstance
  deriving Repr, DecidableEq, Inhabited

namespace Builtin

/-- The name that a macro body calls it by. -/
def name : Builtin → String
  | regular => "regular"
  | group => "operator_parse"
  | parse => "parse"
  | length => "len"
  | text => "str"
  | integer => "int"
  | float => "float"
  | list => "list"
  | first => "first"
  | rest => "rest"
  | reversed => "reversed"
  | push => "push"
  | pop => "pop"
  | range => "range"
  | map => "map"
  | print => "print"
  | assert => "assert"
  | isInstance => "isinstance"

/-- All of them. -/
def all : List Builtin :=
  [regular, group, parse, length, text, integer, float, list, first, rest, reversed, push, pop,
    range, map, print, assert, isInstance]

end Builtin

/-- The functions that make nodes, one for each kind of node. -/
inductive NodeMaker where
  | leaf (kind : LeafKind)
  | binop
  | bracket (kind : Bracket)
  deriving Repr, DecidableEq, Inhabited

namespace NodeMaker

/-- The name that a macro body calls it by. -/
def name : NodeMaker → String
  | leaf .identifier => "Identifier"
  | leaf .string => "String"
  | leaf .number => "Number"
  | leaf .operator => "Operator"
  | binop => "BinOp"
  | bracket .round => "RoundBrackets"
  | bracket .square => "SquareBrackets"
  | bracket .curly => "CurlyBrackets"
  | bracket .sequence => "Sequence"

/-- All of them. -/
def all : List NodeMaker :=
  [leaf .identifier, leaf .number, leaf .string, leaf .operator, binop, bracket .round,
    bracket .square, bracket .curly, bracket .sequence]

/-- The maker of a node's kind. -/
def ofNode : Node → NodeMaker
  | .leaf kind _ _ => leaf kind
  | .binop .. => binop
  | .bracket kind _ _ => bracket kind

end NodeMaker

/-- The methods of lists. -/
inductive ListMethod where
  | push
  | pop
  | slice
  | concat
  | includes
  | indexOf
  | join
  | reverse
  deriving Repr, DecidableEq, Inhabited

namespace ListMethod

/-- The member that the method is. -/
def name : ListMethod → String
  | push => "push"
  | pop => "pop"
  | slice => "slice"
  | concat => "concat"
  | includes => "includes"
  | indexOf => "indexOf"
  | join => "join"
  | reverse => "reverse"

/-- All of them. -/
def all : List ListMethod :=
  [push, pop, slice, concat, includes, indexOf, join, reverse]

end ListMethod

/-- The methods of texts. -/
inductive TextMethod where
  | upper
  | lower
  | startsWith
  | endsWith
  | includes
  | split
  | slice
  deriving Repr, DecidableEq, Inhabited

namespace TextMethod

/-- The member that the method is. -/
def name : TextMethod → String
  | upper => "toUpperCase"
  | lower => "toLowerCase"
  | startsWith => "startsWith"
  | endsWith => "endsWith"
  | includes => "includes"
  | split => "split"
  | slice => "slice"

/-- All of them. -/
def all : List TextMethod :=
  [upper, lower, startsWith, endsWith, includes, split, slice]

end TextMethod

/-- A function that is not written in a macro body. -/
inductive Native where
  | builtin (builtin : Builtin)
  | maker (maker : NodeMaker)
  | listMethod (method : ListMethod) (receiver : ListId)
  | textMethod (method : TextMethod) (receiver : String)
  /-- A registered macro under its name. -/
  | registered (name : String) (entry : Entry)

namespace Native

/-- The name of the function. -/
def name : Native → String
  | builtin b => b.name
  | maker m => m.name
  | listMethod method _ => method.name
  | textMethod method _ => method.name
  | registered name _ => name

end Native

/-- A value of a macro body. -/
inductive Value where
  | null
  | bool (value : Bool)
  | number (value : Float)
  | text (value : String)
  | node (node : Node)
  | list (id : ListId)
  | closure (identity : Identity) (closure : Closure)
  | native (identity : Identity) (native : Native)
  deriving Inhabited

namespace Value

/-- The name of the type. -/
def typeName : Value → String
  | null => "null"
  | bool _ => "boolean"
  | number _ => "number"
  | text _ => "string"
  | node _ => "node"
  | list _ => "list"
  | closure .. | native .. => "function"

/-- Null, false, zero, NaN and the empty text are false; all else is true. -/
def isTruthy : Value → Bool
  | null => false
  | bool value => value
  | number value => value != 0 && !value.isNaN
  | text value => value != ""
  | _ => true

/-- Whether this is a function. -/
def isCallable : Value → Bool
  | closure .. | native .. => true
  | _ => false

def number? : Value → Option Float
  | number value => some value
  | _ => none

def node? : Value → Option Node
  | node n => some n
  | _ => none

def list? : Value → Option ListId
  | list id => some id
  | _ => none

/-- Whether two values are the same: primitive values by what they are, nodes up to their
    locations, lists and functions by where and when they were made. -/
def same : Value → Value → Bool
  | null, null => true
  | bool a, bool b => a == b
  | number a, number b => a == b
  | text a, text b => a == b
  | node a, node b => a.same b
  | list a, list b => a == b
  | closure a _, closure b _ => a == b
  | native a _, native b _ => a == b
  | _, _ => false

end Value

end TreeMacros
