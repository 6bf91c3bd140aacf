import TreeMacros.Evaluation

/-! # Operations on values

The binary operators that compute. Both operands have been evaluated, also those of `&&` and
`||`. Sums are of numbers, or join two texts if one operand is a text.
-/

namespace TreeMacros

/-- The operators that take two numbers and give one. -/
inductive Arithmetic where
  | minus
  | times
  | dividedBy
  | modulo
  deriving Repr, DecidableEq, Inhabited

namespace Arithmetic

def symbol : Arithmetic → String
  | minus => "-"
  | times => "*"
  | dividedBy => "/"
  | modulo => "%"

def apply : Arithmetic → Float → Float → Float
  | minus, a, b => a - b
  | times, a, b => a * b
  | dividedBy, a, b => a / b
  | modulo, a, b => Binary.remainder a b

end Arithmetic

/-- The operators that compare two numbers or two texts. -/
inductive Comparison where
  | less
  | atMost
  | greater
  | atLeast
  deriving Repr, DecidableEq, Inhabited

namespace Comparison

def symbol : Comparison → String
  | less => "<"
  | atMost => "<="
  | greater => ">"
  | atLeast => ">="

/-- Whether a comparison holds of two operands in the given order. -/
def holds : Comparison → Ordering → Bool
  | less, order => order.isLT
  | atMost, order => order.isLE
  | greater, order => order.isGT
  | atLeast, order => order.isGE

end Comparison

/-- The operators that compute a value from two values. -/
inductive ValueOperator where
  | equal
  | unequal
  | both
  | either
  | plus
  | arithmetic (operator : Arithmetic)
  | comparison (operator : Comparison)
  | index
  deriving Repr, DecidableEq, Inhabited

namespace ValueOperator

def symbol : ValueOperator → String
  | equal => "=="
  | unequal => "!="
  | both => "&&"
  | either => "||"
  | plus => "+"
  | arithmetic operator => operator.symbol
  | comparison operator => operator.symbol
  | index => "@"

/-- All of them. -/
def all : List ValueOperator :=
  [equal, unequal, both, either, plus, arithmetic .minus, arithmetic .times, arithmetic .dividedBy,
    arithmetic .modulo, comparison .less, comparison .atMost, comparison .greater,
    comparison .atLeast, index]

/-- The operator with the given symbol. -/
def ofSymbol? (symbol : String) : Option ValueOperator :=
  all.find? (·.symbol == symbol)

/-- How two operands compare: `none` inside if one of them is NaN, outside if they are not two
    numbers or two texts. -/
def compare? : Value → Value → Option (Option Ordering)
  | .number a, .number b => some (Binary.compare? a b)
  | .text a, .text b => some (some (compare a b))
  | _, _ => none

/-- The item at a place. A place that is not there holds null. -/
def itemAt (target key : Value) : Eval Value :=
  match key.number? with
  | none => Eval.fail (.indexType key.typeName)
  | some place =>
    match Binary.whole? place with
    | some (.ofNat i) => do
      match target with
      | .list id => return (← Eval.items id).getD i .null
      | .text s => return s.toList[i]?.elim .null fun c => .text (String.singleton c)
      | other => Eval.fail (.notIndexable other.typeName)
    | _ => return .null

/-- The result of an operation. -/
def apply (operator : ValueOperator) (left right : Value) : Eval Value :=
  let mismatch : Eval Value :=
    Eval.fail (.operandTypes operator.symbol left.typeName right.typeName)
  match operator with
  | equal => return .bool (left.same right)
  | unequal => return .bool (!left.same right)
  | both => return .bool (left.isTruthy && right.isTruthy)
  | either => return .bool (left.isTruthy || right.isTruthy)
  | plus =>
    match left, right with
    | .number a, .number b => return .number (a + b)
    | .text a, right => return .text (a ++ (← Eval.textOf right))
    | left, .text b => return .text ((← Eval.textOf left) ++ b)
    | _, _ => mismatch
  | arithmetic operator =>
    match left, right with
    | .number a, .number b => return .number (operator.apply a b)
    | _, _ => mismatch
  | comparison operator =>
    match compare? left right with
    | some order => return .bool (order.any operator.holds)
    | none => mismatch
  | index => itemAt left right

end ValueOperator

end TreeMacros
