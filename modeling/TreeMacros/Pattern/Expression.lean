import TreeMacros.Datum.Text
import TreeMacros.Node.Number

/-! # Expressions in patterns

An operation that is no pattern form is an expression over the datum at hand, which is called
`$`. Names other than the literals are texts. Operands are coerced freely, and an unknown operator
gives false.
-/

namespace TreeMacros

namespace Datum

/-- A datum as a number: null and false are zero, true is one, texts are read. -/
def toNumber : Datum → Float
  | number value => value
  | null | bool false => 0
  | bool true => 1
  | string value => Decimal.ofText value
  | list _ | object .. => Decimal.nan

/-- How two data compare: texts by their characters, all else as numbers. -/
def compare? : Datum → Datum → Option Ordering
  | string a, string b => some (compareOfLessAndEq a b)
  | a, b => Binary.compare? a.toNumber b.toNumber

/-- Apply an operator of a pattern expression. -/
def operate (operator : String) (l r : Datum) : Datum :=
  match operator with
  | "==" => bool (l.equal r)
  | "!=" => bool (!l.equal r)
  | "<" => bool (l.compare? r == some .lt)
  | "<=" => bool (l.compare? r == some .lt || l.compare? r == some .eq)
  | ">" => bool (l.compare? r == some .gt)
  | ">=" => bool (l.compare? r == some .gt || l.compare? r == some .eq)
  | "+" => match l, r with
    | string _, _ | _, string _ => string (l.text ++ r.text)
    | _, _ => number (l.toNumber + r.toNumber)
  | "-" => number (l.toNumber - r.toNumber)
  | "*" => number (l.toNumber * r.toNumber)
  | "/" => number (l.toNumber / r.toNumber)
  | "%" => number (Binary.remainder l.toNumber r.toNumber)
  | "&&" => bool (l.isTruthy && r.isTruthy)
  | "||" => bool (l.isTruthy || r.isTruthy)
  | "." => l.member r.text
  | _ => bool false

end Datum

namespace Node

mutual

/-- The datum that an expression gives for the datum at hand. -/
def evalWith (datum : Datum) : Node → Datum
  | leaf .identifier name _ =>
    match name with
    | "$" => datum
    | "true" => .bool true
    | "false" => .bool false
    | "null" => .null
    | other => .string other
  | leaf .number text _ => .number (Decimal.ofText text)
  | leaf .string text _ => .string text
  | leaf .operator _ _ => .null
  | binop left operator right _ =>
    Datum.operate operator (left.evalWith datum) (right.evalWith datum)
  | bracket .round [node] _ => node.evalWith datum
  | bracket .round children _ | bracket .square children _ => .list (evalAllWith datum children)
  | bracket .curly _ _ | bracket .sequence _ _ => .null

def evalAllWith (datum : Datum) : List Node → List Datum
  | [] => []
  | node :: rest => node.evalWith datum :: evalAllWith datum rest

end

end Node

end TreeMacros
