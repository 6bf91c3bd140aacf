import TreeMacros.Proofs.Operator.Dangling

/-! # What grouping leaves

While a list is grouped, whatever it looks like, the operands on the stack are nodes of trees. What
grouping gives is a row of such trees. They hold the operands of the list in their order and all of
its operators, so no operator is left loose, neither in the row nor in its brackets. A list without
loose operators is not changed by grouping.
-/

namespace TreeMacros

open Grouping

namespace Node.GroupsTo

variable {node node' : Node}

theorem isOperator_result (groups : node.GroupsTo node') : node'.isOperator = false := by
  cases groups with
  | leaf text loc operand => exact (GroupsTo.leaf text loc operand).isOperator_eq
  | binop | bracket => rfl

theorem loc_eq (groups : node.GroupsTo node') : node'.loc = node.loc := by
  cases groups <;> rfl

theorem of_grouped (operand : node.isOperator = false) (grouped : node.grouped = .ok node') :
    node.GroupsTo node' := by
  cases node with
  | leaf kind text loc =>
      cases grouped
      exact .leaf text loc (by rintro rfl; cases operand)
  | binop left operator right loc =>
      cases grouped
      exact .binop left operator right loc
  | bracket kind children loc =>
      rw [grouped_bracket] at grouped
      cases inner : groupOperators children with
      | error fault =>
          rw [inner] at grouped
          cases grouped
      | ok results =>
          rw [inner] at grouped
          cases grouped
          exact .bracket kind loc inner

end Node.GroupsTo

namespace Grouping

/-! ## The tokens of a tree -/

namespace Tree

/-- The operands of a tree, from left to right. -/
def operands : Tree → List Node
  | operand node => [node]
  | operation left _ right => left.operands ++ right.operands

/-- The operators of a tree, from left to right. -/
def operators : Tree → List PendingOperator
  | operand _ => []
  | operation left operator right => left.operators ++ operator :: right.operators

end Tree

/-! ## Stacks of trees -/

/-- Trees and waiting operators, the last ones first, became others when operators took their
    operands. -/
structure Reduces (trees : List Tree) (waiting : List PendingOperator) (trees' : List Tree)
    (waiting' : List PendingOperator) : Prop where
  operands : trees'.reverse.flatMap Tree.operands = trees.reverse.flatMap Tree.operands
  operators : (trees'.flatMap Tree.operators ++ waiting').Perm
    (trees.flatMap Tree.operators ++ waiting)

namespace Reduces

variable {trees trees' trees'' : List Tree} {waiting waiting' waiting'' : List PendingOperator}

theorem refl (trees : List Tree) (waiting : List PendingOperator) :
    Reduces trees waiting trees waiting :=
  ⟨rfl, .refl _⟩

theorem trans (first : Reduces trees waiting trees' waiting')
    (second : Reduces trees' waiting' trees'' waiting'') :
    Reduces trees waiting trees'' waiting'' :=
  ⟨second.operands.trans first.operands, second.operators.trans first.operators⟩

/-- The operator that waits last takes its operands. -/
theorem operation (left right : Tree) (trees : List Tree) (operator : PendingOperator)
    (waiting : List PendingOperator) :
    Reduces (right :: left :: trees) (operator :: waiting)
      (.operation left operator right :: trees) waiting where
  operands := by simp [Tree.operands]
  operators := by
    classical
    rw [List.perm_iff_count]
    intro other
    simp only [List.flatMap_cons, Tree.operators, List.count_append, List.count_cons]
    omega

end Reduces

theorem applyAll_trees {trees : List Tree} {waiting : List PendingOperator} {results : List Node}
    (settled : applyAll (trees.map Tree.toNode) waiting = .ok results) :
    ∃ trees', results = trees'.map Tree.toNode ∧ Reduces trees waiting trees' [] := by
  induction waiting generalizing trees with
  | nil =>
      rw [applyAll_nil] at settled
      cases settled
      exact ⟨trees, rfl, .refl trees []⟩
  | cons operator waiting ih =>
      obtain _ | ⟨right, _ | ⟨left, trees⟩⟩ := trees
      · cases settled
      · cases settled
      · obtain ⟨trees', rfl, reduces⟩ := @ih (.operation left operator right :: trees) settled
        exact ⟨trees', rfl, (Reduces.operation left right trees operator waiting).trans reduces⟩

theorem applyPreceding_trees {next : OperatorInfo} {trees : List Tree}
    {waiting waiting' : List PendingOperator} {operands : List Node}
    (applied : applyPreceding next (trees.map Tree.toNode) waiting = .ok (operands, waiting')) :
    ∃ trees', operands = trees'.map Tree.toNode ∧ Reduces trees waiting trees' waiting' := by
  induction waiting generalizing trees with
  | nil =>
      cases applied
      exact ⟨trees, rfl, .refl trees []⟩
  | cons operator waiting ih =>
      rw [applyPreceding.eq_def] at applied
      dsimp only at applied
      split at applied
      · obtain _ | ⟨right, _ | ⟨left, trees⟩⟩ := trees
        · cases applied
        · cases applied
        · obtain ⟨trees', rfl, reduces⟩ := @ih (.operation left operator right :: trees) applied
          exact ⟨trees', rfl, (Reduces.operation left right trees operator waiting).trans reduces⟩
      · cases applied
        exact ⟨trees, rfl, .refl trees _⟩

/-! ## Rows of trees -/

/-- The trees stand over a list: they hold what its operands become, in order, and its operators. -/
structure IsForest (nodes : List Node) (trees : List Tree) : Prop where
  operands : List.Forall₂ Node.GroupsTo (nodes.filter (!·.isOperator)) (trees.flatMap Tree.operands)
  operators : ((trees.flatMap Tree.operators).map PendingOperator.node).Perm
    (nodes.filter Node.isOperator)

namespace IsForest

variable {nodes : List Node} {trees : List Tree} {tree : Tree}

/-- An operand in a tree comes from an operand of the list. -/
theorem exists_operand (forest : IsForest nodes trees) (mem : tree ∈ trees) {node' : Node}
    (under : node' ∈ tree.operands) : ∃ node ∈ nodes, node.GroupsTo node' := by
  have inRow : node' ∈ trees.flatMap Tree.operands := List.mem_flatMap_of_mem mem under
  obtain ⟨index, bound, rfl⟩ := List.getElem_of_mem inRow
  obtain ⟨lengths, each⟩ := List.forall₂_iff_get.mp forest.operands
  have here := each index (by omega) bound
  exact ⟨_, (List.mem_filter.mp (List.get_mem _ _)).1, here⟩

/-- An operator in a tree stands in the list. -/
theorem operator_mem (forest : IsForest nodes trees) (mem : tree ∈ trees)
    {operator : PendingOperator} (under : operator ∈ tree.operators) : operator.node ∈ nodes := by
  have inRow : operator.node ∈ (trees.flatMap Tree.operators).map PendingOperator.node :=
    List.mem_map_of_mem (List.mem_flatMap_of_mem mem under)
  exact (List.mem_filter.mp (forest.operators.mem_iff.mp inRow)).1

end IsForest

/-- What comes of stacks of trees and operators if more nodes follow. -/
structure Grows (trees : List Tree) (waiting : List PendingOperator) (rest : List Node)
    (forest : List Tree) : Prop where
  operands : ∃ grouped, List.Forall₂ Node.GroupsTo (rest.filter (!·.isOperator)) grouped ∧
    forest.flatMap Tree.operands = trees.reverse.flatMap Tree.operands ++ grouped
  operators : ((forest.flatMap Tree.operators).map PendingOperator.node).Perm
    ((trees.flatMap Tree.operators ++ waiting).map PendingOperator.node ++
      rest.filter Node.isOperator)

namespace Grows

variable {trees trees' forest : List Tree} {waiting waiting' : List PendingOperator}
  {rest : List Node} {node node' : Node}

theorem nil (trees : List Tree) : Grows trees [] [] trees.reverse where
  operands := ⟨[], .nil, by simp⟩
  operators := by simpa using (((List.reverse_perm trees).flatMap_right _).map _)

theorem of_reduces (reduces : Reduces trees waiting trees' waiting')
    (grows : Grows trees' waiting' rest forest) : Grows trees waiting rest forest where
  operands := reduces.operands ▸ grows.operands
  operators := grows.operators.trans ((reduces.operators.map _).append_right _)

theorem operator (operator : PendingOperator)
    (grows : Grows trees (operator :: waiting) rest forest) :
    Grows trees waiting (operator.node :: rest) forest where
  operands := grows.operands
  operators := by
    -- the operator waits behind the operands now, and stood before the rest of the list
    rw [List.filter_cons_of_pos rfl]
    refine grows.operators.trans ?_
    simp only [List.map_append, List.map_cons, List.append_assoc, List.cons_append]
    exact (List.perm_middle.symm).append_left _

theorem operand (becomes : node.GroupsTo node')
    (grows : Grows (.operand node' :: trees) waiting rest forest) :
    Grows trees waiting (node :: rest) forest where
  operands := by
    obtain ⟨grouped, each, same⟩ := grows.operands
    refine ⟨node' :: grouped, ?_, ?_⟩
    · rw [List.filter_cons_of_pos (by simp [becomes.isOperator_eq])]
      exact .cons becomes each
    · simp [same, Tree.operands]
  operators := by
    rw [List.filter_cons_of_neg (by simp [becomes.isOperator_eq])]
    exact grows.operators

end Grows

/-! ## The run of grouping -/

theorem exists_of_bind_eq_ok {α β : Type} {action : Except Fault α} {next : α → Except Fault β}
    {b : β} (ran : action >>= next = .ok b) : ∃ a, action = .ok a ∧ next a = .ok b := by
  cases action with
  | error fault => cases ran
  | ok a => exact ⟨a, rfl, ran⟩

/-- What grouping gives on stacks of trees is a row of trees in which those of the stacks have
    grown. -/
theorem groupFrom_trees {rest : List Node} {trees : List Tree} {waiting : List PendingOperator}
    {after : Bool} {results : List Node}
    (grouped : groupFrom (trees.map Tree.toNode) waiting after rest = .ok results) :
    ∃ forest, results = forest.map Tree.toNode ∧ Grows trees waiting rest forest := by
  induction rest generalizing trees waiting after with
  | nil =>
      rw [groupFrom] at grouped
      obtain ⟨operands, settled, same⟩ := exists_of_bind_eq_ok grouped
      obtain ⟨trees', rfl, reduces⟩ := applyAll_trees settled
      cases same
      exact ⟨trees'.reverse, by simp, .of_reduces reduces (.nil trees')⟩
  | cons node rest ih =>
      cases kind : node.isOperator with
      | true =>
          obtain ⟨operator, rfl⟩ := isOperator_iff.mp kind
          rw [groupFrom_operator] at grouped
          obtain ⟨⟨operands, waiting'⟩, applied, later⟩ := exists_of_bind_eq_ok grouped
          obtain ⟨trees', rfl, reduces⟩ := applyPreceding_trees applied
          obtain ⟨forest, same, grows⟩ := ih later
          exact ⟨forest, same, .of_reduces reduces (.operator operator grows)⟩
      | false =>
          -- behind an operand, a statement ends before the next operand
          have goesOn : ∀ {trees : List Tree} {waiting : List PendingOperator},
              groupFrom (trees.map Tree.toNode) waiting false (node :: rest) = .ok results →
              ∃ forest, results = forest.map Tree.toNode ∧
                Grows trees waiting (node :: rest) forest := by
            intro trees waiting grouped
            rw [groupFrom_operand _ _ kind] at grouped
            obtain ⟨node', inner, later⟩ := exists_of_bind_eq_ok grouped
            obtain ⟨forest, same, grows⟩ := @ih (.operand node' :: trees) _ _ later
            exact ⟨forest, same, .operand (.of_grouped kind inner) grows⟩
          cases after with
          | false => exact goesOn grouped
          | true =>
              rw [groupFrom_settle _ _ (by rintro _ ⟨⟩; exact kind)] at grouped
              obtain ⟨operands, settled, later⟩ := exists_of_bind_eq_ok grouped
              obtain ⟨trees', rfl, reduces⟩ := applyAll_trees settled
              obtain ⟨forest, same, grows⟩ := goesOn later
              exact ⟨forest, same, .of_reduces reduces grows⟩

/-- What grouping gives is a row of trees over the list. -/
theorem exists_forest {nodes results : List Node} (grouped : groupOperators nodes = .ok results) :
    ∃ trees, results = trees.map Tree.toNode ∧ IsForest nodes trees := by
  rw [groupOperators_eq] at grouped
  obtain ⟨forest, same, grows⟩ := @groupFrom_trees nodes [] [] false results grouped
  obtain ⟨operands, each, inOrder⟩ := grows.operands
  refine ⟨forest, same, ?_, grows.operators⟩
  rw [inOrder]
  exact each

/-! ## Grouping again -/

/-- The second list is the first one, or stands in a bracket of it that is reached through brackets
    only. -/
inductive Encloses : List Node → List Node → Prop
  | whole (nodes : List Node) : Encloses nodes nodes
  | inside {nodes children inner : List Node} {kind : Bracket} {loc : Option Span}
      (mem : .bracket kind children loc ∈ nodes) (deeper : Encloses children inner) :
      Encloses nodes inner

/-- No operator is loose in a list or in the brackets of it. -/
def IsSettled (nodes : List Node) : Prop :=
  ∀ inner, Encloses nodes inner → ∀ node ∈ inner, node.isOperator = false

theorem isSettled_iff {nodes : List Node} :
    IsSettled nodes ↔ (∀ node ∈ nodes, node.isOperator = false) ∧
      ∀ kind children loc, .bracket kind children loc ∈ nodes → IsSettled children := by
  constructor
  · intro settled
    exact ⟨settled nodes (.whole nodes),
      fun _ _ _ mem inner deeper => settled inner (.inside mem deeper)⟩
  · rintro ⟨operands, brackets⟩ inner reached
    cases reached with
    | whole => exact operands
    | inside mem deeper => exact brackets _ _ _ mem inner deeper

/-- Operands that stay as they are are put on the stack and left there. -/
theorem groupFrom_operands {nodes : List Node}
    (operands : ∀ node ∈ nodes, node.isOperator = false ∧ node.grouped = .ok node)
    (earlier : List Node) : groupFrom earlier [] false nodes = .ok (earlier.reverse ++ nodes) := by
  induction nodes generalizing earlier with
  | nil =>
      rw [groupFrom, applyAll_nil]
      simp [Bind.bind, Except.bind, pure, Except.pure]
  | cons node rest ih =>
      obtain ⟨⟨operand, stays⟩, others⟩ := List.forall_mem_cons.mp operands
      have ends : ∀ node ∈ rest.head?, node.isOperator = false :=
        fun node mem => (others node (List.mem_of_head? mem)).1
      rw [groupFrom_operand _ _ operand, stays]
      simp only [Bind.bind, Except.bind]
      rw [groupFrom_settle _ _ ends, applyAll_nil]
      simp only [Bind.bind, Except.bind]
      rw [ih others]
      simp

theorem groupOperators_settled {nodes : List Node} (settled : IsSettled nodes) :
    groupOperators nodes = .ok nodes := by
  -- nodes stay as children of a bracket do
  suffices ∀ whole : Node, IsSettled whole.parts → groupOperators whole.parts = .ok whole.parts from
    this (.bracket .square nodes none) settled
  intro whole
  induction whole using Node.parts_induction with
  | step whole ih =>
      intro settled
      obtain ⟨operands, brackets⟩ := isSettled_iff.mp settled
      rw [groupOperators_eq]
      refine groupFrom_operands (fun part mem => ⟨operands part mem, ?_⟩) []
      cases part with
      | leaf | binop =>
          rw [Node.grouped]
          simp
      | bracket kind children loc =>
          have children := ih _ mem (brackets kind children loc mem)
          rw [Node.parts] at children
          rw [grouped_bracket, children]
          rfl

theorem isSettled_of_grouped {nodes results : List Node}
    (grouped : groupOperators nodes = .ok results) : IsSettled results := by
  suffices ∀ whole : Node, ∀ results, groupOperators whole.parts = .ok results →
      IsSettled results from this (.bracket .square nodes none) results grouped
  intro whole
  induction whole using Node.parts_induction with
  | step whole ih =>
      intro results grouped
      obtain ⟨trees, rfl, forest⟩ := exists_forest grouped
      rw [isSettled_iff]
      constructor
      · intro node mem
        obtain ⟨tree, here, rfl⟩ := List.mem_map.mp mem
        cases tree with
        | operand node =>
            obtain ⟨part, -, groups⟩ := forest.exists_operand here (List.mem_singleton_self node)
            exact groups.isOperator_result
        | operation left operator right => rfl
      · intro kind children loc mem
        obtain ⟨tree, here, same⟩ := List.mem_map.mp mem
        cases tree with
        | operation left operator right => cases same
        | operand node =>
            obtain ⟨part, direct, groups⟩ :=
              forest.exists_operand here (List.mem_singleton_self node)
            cases same
            cases groups with
            | bracket kind loc inner => exact ih _ direct _ inner

end Grouping

/-- Whatever list grouping succeeds on, no operator is loose in what it gives, nor in the brackets
    of it. To group this again changes nothing. -/
theorem groupOperators_idempotent {nodes results : List Node}
    (grouped : groupOperators nodes = .ok results) :
    (∀ inner, Encloses results inner → ∀ node ∈ inner, node.isOperator = false) ∧
      groupOperators results = .ok results := by
  have settled := isSettled_of_grouped grouped
  exact ⟨settled, groupOperators_settled settled⟩

/-- A bracket with an operation in it, and an operator behind both of its operands. -/
theorem groupOperators_idempotent_joined :
    let loc : Option Span := some ⟨⟨4, 0, 4⟩, ⟨5, 0, 5⟩⟩
    let minus : Node := .leaf .operator "-" loc
    let bracket : Node := .square [.ident "x", minus, .ident "y"]
    let results : List Node := [.square [.binop (.ident "x") "-" (.ident "y") loc],
      .binop (.ident "a") "-" (.ident "b") loc]
    groupOperators [bracket, .ident "a", .ident "b", minus] = .ok results ∧
      groupOperators results = .ok results := by
  intro loc minus bracket results
  have grouped : groupOperators [bracket, .ident "a", .ident "b", minus] = .ok results := rfl
  exact ⟨grouped, (groupOperators_idempotent grouped).2⟩

end TreeMacros
