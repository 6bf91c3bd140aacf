/-! # Binary operators

How tightly an operator binds and to which side it associates. An unknown operator binds loosest
and associates to the left.
-/

namespace TreeMacros

/-- The side that comes first when operators of one priority meet. -/
inductive Associativity where
  | left
  | right
  deriving Repr, DecidableEq

/-- Priority and associativity of an operator. -/
structure OperatorInfo where
  priority : Nat
  associativity : Associativity
  deriving Repr, DecidableEq

/-- The table of operators. -/
def operatorInfo (operator : String) : OperatorInfo :=
  match operator with
  | "=" => ⟨5, .right⟩
  | "->" => ⟨10, .right⟩
  | "|" => ⟨20, .left⟩
  | "||" => ⟨30, .left⟩
  | "&&" => ⟨40, .left⟩
  | "==" | "!=" => ⟨50, .left⟩
  | "<" | "<=" | ">" | ">=" => ⟨55, .left⟩
  | ":" => ⟨58, .left⟩
  | ".." => ⟨60, .left⟩
  | "+" | "-" => ⟨70, .left⟩
  | "*" | "/" | "%" => ⟨80, .left⟩
  | "**" => ⟨90, .right⟩
  | "@" => ⟨95, .left⟩
  | "'" => ⟨100, .left⟩
  | "." => ⟨110, .left⟩
  | _ => ⟨0, .left⟩

/-- Whether a waiting operator takes its operands before the operator that follows them. -/
def OperatorInfo.precedes (waiting next : OperatorInfo) : Bool :=
  next.priority < waiting.priority ||
    (waiting.priority == next.priority && waiting.associativity == .left)

end TreeMacros
