import Mathlib.Data.List.Basic
import TreeMacros.Operator.Grouping

/-! # Statements and their trees

A statement is an operand, then operators that each have an operand behind them. To group it is to
put a tree over it, in which every operator has a tree on either side and the operands keep their
order. Among the trees over one statement, a single one agrees with priorities and associativity.
-/

namespace TreeMacros

namespace PendingOperator

/-- The operator as it stands in a list of nodes. -/
def node (operator : PendingOperator) : Node :=
  .leaf .operator operator.operator operator.loc

/-- Priority and associativity of the operator. -/
def info (operator : PendingOperator) : OperatorInfo :=
  operatorInfo operator.operator

/-- One operator may stand below another one, to one side: it binds tighter, or as tight and
    associates to this side. -/
def Below (side : Associativity) (lower upper : PendingOperator) : Prop :=
  upper.info.priority < lower.info.priority ∨
    lower.info.priority = upper.info.priority ∧ lower.info.associativity = side

end PendingOperator

/-! ## The table of operators -/

/-- Operators of one priority associate to the same side. -/
theorem associativity_operatorInfo (operator : String) :
    (operatorInfo operator).associativity =
      if (operatorInfo operator).priority ∈ [5, 10, 90] then .right else .left := by
  unfold operatorInfo
  split <;> rfl

namespace PendingOperator

variable {side : Associativity} {first second lower upper : PendingOperator}

theorem associativity_eq (same : first.info.priority = second.info.priority) :
    first.info.associativity = second.info.associativity := by
  simp only [info] at same ⊢
  rw [associativity_operatorInfo, associativity_operatorInfo, same]

theorem precedes_eq_true : first.info.precedes second.info = true ↔ first.Below .left second := by
  simp [OperatorInfo.precedes, Below]

/-- What does not take its operands before the next operator gets it below, to the right. -/
theorem precedes_eq_false :
    first.info.precedes second.info = false ↔ second.Below .right first := by
  rw [← Bool.not_eq_true, precedes_eq_true, Below, Below]
  rcases Nat.lt_trichotomy first.info.priority second.info.priority with less | same | more
  · simp [less, Nat.not_lt_of_lt less, Nat.ne_of_lt less]
  · have sides := associativity_eq same
    cases side : second.info.associativity <;> simp [same, sides, side]
  · simp [more, Nat.not_lt_of_lt more, Nat.ne_of_lt more]

/-- Of two operators, one cannot be to the left below the other and have it to the right below. -/
theorem Below.not_right (left : first.Below .left second) : ¬second.Below .right first := by
  rw [← precedes_eq_false, precedes_eq_true.mpr left]
  exact nofun

theorem Below.priority_le (below : lower.Below side upper) :
    upper.info.priority ≤ lower.info.priority :=
  below.elim Nat.le_of_lt fun same => Nat.le_of_eq same.1.symm

/-- What binds as tight as an operator below another one, or tighter, may stand there as well. -/
theorem Below.of_le {lowest : PendingOperator} (below : lower.Below side upper)
    (tight : lower.info.priority ≤ lowest.info.priority) : lowest.Below side upper := by
  obtain tighter | ⟨same, sided⟩ := below
  · exact .inl (Nat.lt_of_lt_of_le tighter tight)
  · obtain tighter | equal := Nat.lt_or_eq_of_le tight
    · exact .inl (same ▸ tighter)
    · exact .inr ⟨equal ▸ same, associativity_eq equal ▸ sided⟩

end PendingOperator

namespace Grouping

/-! ## Statements -/

/-- An operand, then operators with the operands behind them. -/
@[ext]
structure Statement where
  first : Node
  rest : List (PendingOperator × Node)

namespace Statement

/-- The operands of a statement. -/
def operands (statement : Statement) : List Node :=
  statement.first :: statement.rest.map (·.2)

/-- An operator and the operand behind it, as they stand in a list of nodes. -/
def pair : PendingOperator × Node → List Node
  | (operator, operand) => [operator.node, operand]

/-- The statement as it stands in a list of nodes. -/
def nodes (statement : Statement) : List Node :=
  statement.first :: statement.rest.flatMap pair

/-- Two statements with an operator between them. -/
def join (left : Statement) (operator : PendingOperator) (right : Statement) : Statement :=
  ⟨left.first, left.rest ++ (operator, right.first) :: right.rest⟩

theorem join_assoc (first second third : Statement) (operator operator' : PendingOperator) :
    (first.join operator second).join operator' third =
      first.join operator (second.join operator' third) := by
  simp [join]

end Statement

/-! ## Trees -/

/-- Two elements that split one list stand at the same place, or each on one side of the other. -/
theorem eq_or_within {α : Type} {left right left' right' : List α} {a b : α}
    (same : left ++ a :: right = left' ++ b :: right') :
    (left = left' ∧ a = b ∧ right = right') ∨
      (∃ between, left' = left ++ a :: between ∧ right = between ++ b :: right') ∨
      ∃ between, left = left' ++ b :: between ∧ right' = between ++ a :: right := by
  obtain ⟨between, longer, shorter⟩ | ⟨between, longer, shorter⟩ :=
    List.append_eq_append_iff.mp same
  · cases between with
    | nil => simp_all
    | cons head between =>
        obtain ⟨rfl, rfl⟩ := List.cons.inj shorter
        exact .inr (.inl ⟨between, longer, rfl⟩)
  · cases between with
    | nil => simp_all
    | cons head between =>
        obtain ⟨rfl, rfl⟩ := List.cons.inj shorter
        exact .inr (.inr ⟨between, longer, rfl⟩)

/-- A tree over a statement. -/
inductive Tree where
  | operand (node : Node)
  | operation (left : Tree) (operator : PendingOperator) (right : Tree)

namespace Tree

/-- The operation on top of a tree. -/
def root? : Tree → Option PendingOperator
  | operand _ => none
  | operation _ operator _ => some operator

/-- The statement under a tree, read from left to right. -/
def reading : Tree → Statement
  | operand node => ⟨node, []⟩
  | operation left operator right => left.reading.join operator right.reading

/-- The node that a tree stands for. -/
def toNode : Tree → Node
  | operand node => node
  | operation left operator right => operator.apply left.toNode right.toNode

/-- The tree agrees with priorities and associativity: on either side of an operator, only such
    operators come next that may stand below it there. -/
def IsOrdered : Tree → Prop
  | operand _ => True
  | operation left operator right =>
    left.IsOrdered ∧ right.IsOrdered ∧ (∀ lower ∈ left.root?, lower.Below .left operator) ∧
      ∀ lower ∈ right.root?, lower.Below .right operator

/-- In an ordered tree, no operator binds less tight than the one on top. -/
theorem IsOrdered.priority_root_le {tree : Tree} (ordered : tree.IsOrdered)
    {top : PendingOperator} (root : top ∈ tree.root?) {operand : Node} {operator : PendingOperator}
    (mem : (operator, operand) ∈ tree.reading.rest) :
    top.info.priority ≤ operator.info.priority := by
  induction tree generalizing top operator operand with
  | operand node => cases root
  | operation left upper right ihLeft ihRight =>
      obtain ⟨orderedLeft, orderedRight, belowLeft, belowRight⟩ := ordered
      obtain rfl := Option.some.inj root
      simp only [reading, Statement.join, List.mem_append, List.mem_cons] at mem
      obtain inLeft | same | inRight := mem
      · cases left with
        | operand node => cases inLeft
        | operation _ next _ =>
            exact Nat.le_trans (belowLeft next rfl).priority_le (ihLeft orderedLeft rfl inLeft)
      · cases same
        exact Nat.le_refl _
      · cases right with
        | operand node => cases inRight
        | operation _ next _ =>
            exact Nat.le_trans (belowRight next rfl).priority_le (ihRight orderedRight rfl inRight)

/-- What may stand on top may stand anywhere in an ordered tree. -/
theorem IsOrdered.below {tree : Tree} (ordered : tree.IsOrdered) {side : Associativity}
    {upper : PendingOperator} (below : ∀ lower ∈ tree.root?, lower.Below side upper)
    {operand : Node} {operator : PendingOperator}
    (mem : (operator, operand) ∈ tree.reading.rest) : operator.Below side upper := by
  cases tree with
  | operand node => cases mem
  | operation left top right =>
      exact (below top rfl).of_le (ordered.priority_root_le rfl mem)

/-- There is one ordered tree over a statement. -/
theorem IsOrdered.unique {tree other : Tree} (ordered : tree.IsOrdered)
    (ordered' : other.IsOrdered) (same : tree.reading = other.reading) : tree = other := by
  induction tree generalizing other with
  | operand node =>
      cases other with
      | operand node' =>
          cases same
          rfl
      | operation left operator right => simp [reading, Statement.join] at same
  | operation left operator right ihLeft ihRight =>
      cases other with
      | operand node' => simp [reading, Statement.join] at same
      | operation left' operator' right' =>
          obtain ⟨orderedLeft, orderedRight, belowLeft, belowRight⟩ := ordered
          obtain ⟨orderedLeft', orderedRight', belowLeft', belowRight'⟩ := ordered'
          simp only [reading, Statement.join, Statement.mk.injEq] at same
          obtain ⟨first, rest⟩ := same
          obtain ⟨lefts, here, rights⟩ | ⟨between, longer, shorter⟩ | ⟨between, longer, shorter⟩ :=
            eq_or_within rest
          · obtain ⟨rfl, second⟩ := Prod.mk.inj here
            have sameLeft := ihLeft orderedLeft orderedLeft' (Statement.ext first lefts)
            have sameRight := ihRight orderedRight orderedRight' (Statement.ext second rights)
            rw [sameLeft, sameRight]
          · have inRight : (operator', right'.reading.first) ∈ right.reading.rest := by
              simp [shorter]
            have inLeft : (operator, right.reading.first) ∈ left'.reading.rest := by
              simp [longer]
            exact ((orderedLeft'.below belowLeft' inLeft).not_right
              (orderedRight.below belowRight inRight)).elim
          · have inRight : (operator, right.reading.first) ∈ right'.reading.rest := by
              simp [shorter]
            have inLeft : (operator', right'.reading.first) ∈ left.reading.rest := by
              simp [longer]
            exact ((orderedLeft.below belowLeft inLeft).not_right
              (orderedRight'.below belowRight' inRight)).elim

end Tree

end Grouping
end TreeMacros
