import Mathlib
import TreeMacros.Proofs.Operator.Precedence

/-! # The balance of operands and operators

An operator takes two operands and gives one. If every operator of a list stands between two
operands, there is one more operand than operators in each statement. Operands run out where a list
of nodes ends a statement with no more operands than operators.
-/

namespace TreeMacros.Grouping

/-- What a node adds to the number of operands, as an operator takes two of them and gives one. -/
def weight (node : Node) : Int :=
  if node.isOperator then -1 else 1

/-- How many more operands than operators there are. -/
def surplus (nodes : List Node) : Int :=
  (nodes.map weight).sum

/-- A statement ends between two parts of a list: two operands meet there, or nothing follows. -/
def EndsStatement (before later : List Node) : Prop :=
  ∀ next ∈ later.head?, next.isOperator = false ∧ ∃ last ∈ before.getLast?, last.isOperator = false

/-- How many statements a list holds: two operands in a row belong to two of them. -/
def statementCount : List Node → Nat
  | [] => 0
  | [_] => 1
  | left :: right :: rest =>
    statementCount (right :: rest) + if left.isOperator || right.isOperator then 0 else 1

/-- Every operator of a list stands between two operands. -/
structure IsPaired (nodes : List Node) : Prop where
  first : ∀ node ∈ nodes.head?, node.isOperator = false
  last : ∀ node ∈ nodes.getLast?, node.isOperator = false
  apart : nodes.IsChain fun left right => left.isOperator = false ∨ right.isOperator = false

variable {nodes rest : List Node} {node : Node} {balance : Int} {after : Bool}

theorem isOperator_iff :
    node.isOperator = true ↔ ∃ operator : PendingOperator, node = operator.node := by
  constructor
  · intro operator
    cases node with
    | leaf kind text loc =>
        cases kind with
        | operator => exact ⟨⟨text, loc⟩, rfl⟩
        | identifier | string | number => cases operator
    | binop | bracket => cases operator
  · rintro ⟨operator, rfl⟩
    rfl

theorem weight_operator (operator : node.isOperator = true) : weight node = -1 := by
  simp [weight, operator]

theorem weight_operand (operand : node.isOperator = false) : weight node = 1 := by
  simp [weight, operand]

@[simp] theorem surplus_nil : surplus [] = 0 := rfl

@[simp] theorem surplus_cons : surplus (node :: rest) = weight node + surplus rest := by
  simp [surplus]

/-- How many operators have no operand behind them. -/
def lacking : List Node → Nat
  | [] => 0
  | [node] => node.isOperator.toNat
  | left :: right :: rest => lacking (right :: rest) + (left.isOperator && right.isOperator).toNat

/-- For every operand that lacks, two statements are joined. -/
theorem surplus_add_lacking (node : Node) (rest : List Node) :
    surplus (node :: rest) + (node.isOperator.toNat + lacking (node :: rest)) =
      statementCount (node :: rest) := by
  induction rest generalizing node with
  | nil => cases kind : node.isOperator <;> simp [statementCount, lacking, weight, kind]
  | cons next rest ih =>
      have later := ih next
      rw [surplus_cons, statementCount, lacking]
      cases kind : node.isOperator with
      | true =>
          simp [weight_operator kind] at later ⊢
          omega
      | false =>
          cases kind' : next.isOperator <;> simp [weight_operand kind, kind'] at later ⊢ <;> omega

theorem lacking_eq_zero (nonempty : nodes ≠ []) :
    lacking nodes = 0 ↔ (∀ node ∈ nodes.getLast?, node.isOperator = false) ∧
      nodes.IsChain fun left right => left.isOperator = false ∨ right.isOperator = false := by
  induction nodes using lacking.induct with
  | case1 => exact (nonempty rfl).elim
  | case2 node => simp [lacking]
  | case3 left right rest ih =>
      simp only [lacking, Nat.add_eq_zero_iff, ih nofun, List.getLast?_cons_cons,
        List.isChain_cons_cons, Bool.toNat_eq_zero, Bool.and_eq_false_iff]
      tauto

/-- A list has no more surplus than statements, and less if an operator dangles. -/
theorem surplus_lt_iff (nodes : List Node) :
    surplus nodes ≤ statementCount nodes ∧
      (surplus nodes < statementCount nodes ↔ ¬IsPaired nodes) := by
  cases nodes with
  | nil => exact ⟨Int.le_refl _, by simp [statementCount], fun unpaired =>
      (unpaired ⟨nofun, nofun, .nil⟩).elim⟩
  | cons node rest =>
      have count := surplus_add_lacking node rest
      have paired : IsPaired (node :: rest) ↔
          node.isOperator.toNat = 0 ∧ lacking (node :: rest) = 0 := by
        rw [lacking_eq_zero (List.cons_ne_nil node rest), Bool.toNat_eq_zero]
        exact ⟨fun ⟨first, last, apart⟩ => ⟨first _ rfl, last, apart⟩,
          fun ⟨first, last, apart⟩ => ⟨by rintro _ ⟨⟩; exact first, last, apart⟩⟩
      rw [paired]
      omega

theorem IsPaired.of_append {before later : List Node} (ends : EndsStatement before later)
    (paired : IsPaired (before ++ later)) : IsPaired before := by
  refine ⟨?_, ?_, paired.apart.left_of_append⟩
  · intro node mem
    exact paired.first node (by simp [List.head?_append, Option.mem_def.mp mem])
  · intro node mem
    cases later with
    | nil => exact paired.last node (by simpa using mem)
    | cons next later =>
        obtain ⟨-, last, mem', operand⟩ := ends next rfl
        obtain rfl := Option.mem_unique mem mem'
        exact operand

theorem statementCount_pos (nonempty : nodes ≠ []) : 0 < statementCount nodes := by
  induction nodes using statementCount.induct with
  | case1 => exact (nonempty rfl).elim
  | case2 node => exact Nat.zero_lt_one
  | case3 left right rest ih => exact Nat.lt_of_lt_of_le (ih nofun) (Nat.le_add_right ..)

/-! ## Where operands run out -/

/-- Operands run out further on, if there have been `balance` more operands than operators. -/
def Overdrawn (balance : Int) (afterOperand : Bool) : List Node → Prop
  | [] => balance ≤ 0
  | node :: rest =>
    (afterOperand = true ∧ node.isOperator = false ∧ balance ≤ 0) ∨
      Overdrawn (balance + weight node) (!node.isOperator) rest

/-- Where operands lack, no operand that the statement still gets makes up for it. -/
theorem overdrawn_of_le (few : balance ≤ 0) (fewer : after = false → balance < 0) :
    Overdrawn balance after nodes := by
  induction nodes generalizing balance after with
  | nil => exact few
  | cons node rest ih =>
      cases kind : node.isOperator with
      | true =>
          refine .inr (ih ?_ fun _ => ?_)
          all_goals
            rw [weight_operator kind]
            omega
      | false =>
          cases after with
          | true => exact .inl ⟨rfl, kind, few⟩
          | false =>
              have missing := fewer rfl
              refine .inr (ih ?_ ?_)
              · rw [weight_operand kind]
                omega
              · simp [kind]

theorem endsStatement_single {later : List Node} :
    EndsStatement [node] later ↔
      ∀ next ∈ later.head?, next.isOperator = false ∧ node.isOperator = false := by
  simp [EndsStatement]

theorem endsStatement_cons (first : Node) {later : List Node} :
    EndsStatement (first :: node :: rest) later ↔ EndsStatement (node :: rest) later := by
  simp [EndsStatement]

/-- Operands run out behind a node if they do at the end of some statement. -/
theorem overdrawn_iff :
    Overdrawn balance (!node.isOperator) rest ↔
      ∃ before later, rest = before ++ later ∧ EndsStatement (node :: before) later ∧
        balance + surplus before ≤ 0 := by
  induction rest generalizing node balance with
  | nil => simp [Overdrawn, EndsStatement]
  | cons next rest ih =>
      rw [Overdrawn, ih]
      constructor
      · rintro (⟨operand, operand', few⟩ | ⟨before, later, rfl, ends, few⟩)
        · refine ⟨[], next :: rest, rfl, endsStatement_single.mpr ?_, by simpa using few⟩
          rintro _ ⟨⟩
          exact ⟨operand', by simpa using operand⟩
        · refine ⟨next :: before, later, rfl, (endsStatement_cons node).mpr ends, ?_⟩
          rw [surplus_cons]
          omega
      · rintro ⟨_ | ⟨head, before⟩, later, split, ends, few⟩
        · obtain rfl := split
          obtain ⟨operand', operand⟩ := endsStatement_single.mp ends next rfl
          exact .inl ⟨by simp [operand], operand', by simpa using few⟩
        · obtain ⟨rfl, rfl⟩ := List.cons.inj split
          rw [surplus_cons] at few
          exact .inr ⟨before, later, rfl, (endsStatement_cons node).mp ends, by omega⟩

theorem overdrawn_start_iff (nonempty : nodes ≠ []) :
    Overdrawn 0 false nodes ↔
      ∃ before later, nodes = before ++ later ∧ before ≠ [] ∧ EndsStatement before later ∧
        surplus before ≤ 0 := by
  obtain ⟨node, rest, rfl⟩ := List.exists_cons_of_ne_nil nonempty
  simp only [Overdrawn, Bool.false_eq_true, false_and, false_or, overdrawn_iff]
  constructor
  · rintro ⟨before, later, rfl, ends, few⟩
    refine ⟨node :: before, later, rfl, nofun, ends, ?_⟩
    rw [surplus_cons]
    omega
  · rintro ⟨before, later, split, nonempty, ends, few⟩
    obtain ⟨head, before, rfl⟩ := List.exists_cons_of_ne_nil nonempty
    obtain ⟨rfl, rfl⟩ := List.cons.inj split
    rw [surplus_cons] at few
    exact ⟨before, later, rfl, ends, by omega⟩

end TreeMacros.Grouping
