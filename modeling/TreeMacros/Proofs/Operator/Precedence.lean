import Mathlib.Data.List.Forall2
import TreeMacros.Proofs.Operator.Tree

/-! # Grouping follows precedence

A list of nodes in which every operator stands between two operands is a row of statements.
Grouping succeeds on it and gives one node for each statement: the node of the only tree over it
that agrees with priorities and associativity.

While a statement is read, the trees to the left of the waiting operators form a spine. It agrees
with priorities so far, and what is read next goes below it, to the right.
-/

namespace TreeMacros

open Grouping

/-! ## Operands -/

/-- Whether the node is a loose operator. -/
def Node.isOperator : Node → Bool
  | .leaf .operator .. => true
  | _ => false

/-- What becomes of an operand: a bracket keeps its kind and its place around its grouped children,
    and anything else stays. -/
inductive Node.GroupsTo : Node → Node → Prop
  | leaf {kind : LeafKind} (text : String) (loc : Option Span) (operand : kind ≠ .operator) :
      GroupsTo (.leaf kind text loc) (.leaf kind text loc)
  | binop (left : Node) (operator : String) (right : Node) (loc : Option Span) :
      GroupsTo (.binop left operator right loc) (.binop left operator right loc)
  | bracket {children grouped : List Node} (kind : Bracket) (loc : Option Span)
      (inner : groupOperators children = .ok grouped) :
      GroupsTo (.bracket kind children loc) (.bracket kind grouped loc)

namespace Node.GroupsTo

variable {node node' other : Node}

theorem isOperator_eq (groups : node.GroupsTo node') : node.isOperator = false := by
  cases groups with
  | @leaf kind text loc operand =>
      cases kind with
      | operator => exact (operand rfl).elim
      | identifier | string | number => rfl
  | binop | bracket => rfl

theorem grouped_eq (groups : node.GroupsTo node') : node.grouped = .ok node' := by
  cases groups with
  | leaf | binop => rw [grouped]; exact nofun
  | bracket kind loc inner =>
      rw [groupOperators] at inner
      rw [grouped, inner]
      rfl

theorem unique (groups : node.GroupsTo node') (groups' : node.GroupsTo other) : node' = other :=
  Except.ok.inj (groups.grouped_eq.symm.trans groups'.grouped_eq)

end Node.GroupsTo

namespace Grouping

/-- What becomes of an operand becomes of it behind an operator. -/
def PairGroupsTo (pair pair' : PendingOperator × Node) : Prop :=
  pair.1 = pair'.1 ∧ pair.2.GroupsTo pair'.2

/-- What becomes of a statement whose operands are grouped. -/
structure Statement.GroupsTo (statement statement' : Statement) : Prop where
  first : statement.first.GroupsTo statement'.first
  rest : List.Forall₂ PairGroupsTo statement.rest statement'.rest

theorem PairGroupsTo.unique {pair pair' other : PendingOperator × Node}
    (groups : PairGroupsTo pair pair') (groups' : PairGroupsTo pair other) : pair' = other :=
  Prod.ext (groups.1.symm.trans groups'.1) (groups.2.unique groups'.2)

theorem Statement.GroupsTo.unique {statement statement' other : Statement}
    (groups : statement.GroupsTo statement') (groups' : statement.GroupsTo other) :
    statement' = other :=
  Statement.ext (groups.first.unique groups'.first)
    (Relator.RightUnique.forall₂ (R := PairGroupsTo) (fun _ _ _ => PairGroupsTo.unique)
      groups.rest groups'.rest)

/-! ## Steps of grouping -/

section Steps

variable (operands : List Node) (waiting : List PendingOperator)

@[simp] theorem applyAll_nil : applyAll operands [] = .ok operands := by
  rw [applyAll]

theorem groupFrom_operator (after : Bool) (operator : PendingOperator) (rest : List Node) :
    groupFrom operands waiting after (operator.node :: rest) =
      applyPreceding operator.info operands waiting >>= fun (operands, waiting) =>
        groupFrom operands (operator :: waiting) false rest := by
  rw [PendingOperator.node, groupFrom]
  rfl

theorem groupFrom_operand {node : Node} (operand : node.isOperator = false) (rest : List Node) :
    groupFrom operands waiting false (node :: rest) =
      node.grouped >>= fun node => groupFrom (node :: operands) waiting true rest := by
  rw [groupFrom]
  · rfl
  · rintro text loc rfl
    cases operand

/-- Where a statement ends, all waiting operators take their operands. -/
theorem groupFrom_settle {rest : List Node}
    (ends : ∀ node ∈ rest.head?, node.isOperator = false) :
    groupFrom operands waiting true rest =
      applyAll operands waiting >>= fun operands => groupFrom operands [] false rest := by
  cases rest with
  | nil =>
      simp only [groupFrom]
      cases applyAll operands waiting with
      | error fault => rfl
      | ok operands => simp [Bind.bind, Except.bind]
  | cons node rest =>
      have operand := ends node rfl
      simp only [groupFrom_operand _ _ operand]
      rw [groupFrom]
      · rfl
      · rintro text loc rfl
        cases operand

end Steps

/-! ## Spines -/

/-- The trees of a statement that wait with an operator behind them. -/
inductive Spine where
  | top
  | under (spine : Spine) (left : Tree) (operator : PendingOperator)

namespace Spine

/-- The operands that wait, the last one first. -/
def operands : Spine → List Node
  | top => []
  | under spine left _ => left.toNode :: spine.operands

/-- The operators that wait, the last one first. -/
def operators : Spine → List PendingOperator
  | top => []
  | under spine _ operator => operator :: spine.operators

/-- The operator that waits last. -/
def last? : Spine → Option PendingOperator
  | top => none
  | under _ _ operator => some operator

/-- The statement that ends with what is read last. -/
def reading (last : Statement) : Spine → Statement
  | top => last
  | under spine left operator => spine.reading (left.reading.join operator last)

/-- An operator, if there is one, may come next to the right. -/
def Takes (spine : Spine) (next : Option PendingOperator) : Prop :=
  ∀ lower ∈ next, ∀ upper ∈ spine.last?, lower.Below .right upper

/-- The spine agrees with priorities so far. -/
def IsOrdered : Spine → Prop
  | top => True
  | under spine left operator =>
    spine.IsOrdered ∧ left.IsOrdered ∧ (∀ lower ∈ left.root?, lower.Below .left operator) ∧
      spine.Takes (some operator)

end Spine

variable {spine : Spine} {tree : Tree}

/-- To go on with an operator: those that precede it take their operands, and it waits for its own. -/
theorem applyPreceding_spine (done : List Node) (next : PendingOperator) (ordered : spine.IsOrdered)
    (orderedTree : tree.IsOrdered) (takes : spine.Takes tree.root?)
    (fits : ∀ lower ∈ tree.root?, lower.Below .left next) :
    ∃ (spine' : Spine) (tree' : Tree),
      applyPreceding next.info (tree.toNode :: (spine.operands ++ done)) spine.operators =
        .ok (tree'.toNode :: (spine'.operands ++ done), spine'.operators) ∧
      (spine'.under tree' next).IsOrdered ∧
      ∀ last, (spine'.under tree' next).reading last = (spine.under tree next).reading last := by
  induction spine generalizing tree with
  | top => exact ⟨.top, tree, rfl, ⟨trivial, orderedTree, fits, nofun⟩, fun _ => rfl⟩
  | under spine left waiting ih =>
      obtain ⟨orderedSpine, orderedLeft, belowLeft, taken⟩ := ordered
      have belowRight : ∀ lower ∈ tree.root?, lower.Below .right waiting :=
        fun lower root => takes lower root _ rfl
      have step : applyPreceding next.info
          (tree.toNode :: ((spine.under left waiting).operands ++ done))
          (spine.under left waiting).operators =
          if waiting.info.precedes next.info then
            applyPreceding next.info
              ((Tree.operation left waiting tree).toNode :: (spine.operands ++ done))
              spine.operators
          else .ok (tree.toNode :: ((spine.under left waiting).operands ++ done),
            (spine.under left waiting).operators) := rfl
      rw [step]
      cases precedes : waiting.info.precedes next.info with
      | true =>
          have fits' : ∀ lower ∈ some waiting, lower.Below .left next := by
            rintro _ ⟨⟩
            exact PendingOperator.precedes_eq_true.mp precedes
          obtain ⟨spine', tree', applied, ordered', same⟩ :=
            @ih (.operation left waiting tree) orderedSpine
              ⟨orderedLeft, orderedTree, belowLeft, belowRight⟩ taken fits'
          refine ⟨spine', tree', applied, ordered', fun last => ?_⟩
          rw [same, Spine.reading, Spine.reading, Spine.reading, Tree.reading,
            Statement.join_assoc]
      | false =>
          refine ⟨spine.under left waiting, tree, rfl,
            ⟨⟨orderedSpine, orderedLeft, belowLeft, taken⟩, orderedTree, fits, ?_⟩, fun _ => rfl⟩
          rintro _ ⟨⟩ _ ⟨⟩
          exact PendingOperator.precedes_eq_false.mp precedes

/-- To end a statement: all waiting operators take their operands. -/
theorem applyAll_spine (done : List Node) (ordered : spine.IsOrdered)
    (orderedTree : tree.IsOrdered) (takes : spine.Takes tree.root?) :
    ∃ tree' : Tree,
      applyAll (tree.toNode :: (spine.operands ++ done)) spine.operators =
        .ok (tree'.toNode :: done) ∧
      tree'.IsOrdered ∧ tree'.reading = spine.reading tree.reading := by
  induction spine generalizing tree with
  | top => exact ⟨tree, applyAll_nil _, orderedTree, rfl⟩
  | under spine left waiting ih =>
      obtain ⟨orderedSpine, orderedLeft, belowLeft, taken⟩ := ordered
      have belowRight : ∀ lower ∈ tree.root?, lower.Below .right waiting :=
        fun lower root => takes lower root _ rfl
      exact @ih (.operation left waiting tree) orderedSpine
        ⟨orderedLeft, orderedTree, belowLeft, belowRight⟩ taken

/-! ## Statements -/

/-- The rest of a statement whose last operand has just been read. -/
theorem groupFrom_pairs (done : List Node) {later : List Node}
    (ends : ∀ node ∈ later.head?, node.isOperator = false)
    {pairs pairs' : List (PendingOperator × Node)} (groups : List.Forall₂ PairGroupsTo pairs pairs')
    (operand : Node) (ordered : spine.IsOrdered) :
    ∃ tree : Tree, tree.IsOrdered ∧ tree.reading = spine.reading ⟨operand, pairs'⟩ ∧
      groupFrom (operand :: (spine.operands ++ done)) spine.operators true
          (pairs.flatMap Statement.pair ++ later) =
        groupFrom (tree.toNode :: done) [] false later := by
  induction groups generalizing spine operand with
  | nil =>
      obtain ⟨tree, applied, orderedTree, reads⟩ :=
        @applyAll_spine spine (.operand operand) done ordered trivial nofun
      refine ⟨tree, orderedTree, reads, ?_⟩
      rw [List.flatMap_nil, List.nil_append, groupFrom_settle _ _ ends]
      simp only [Tree.toNode] at applied
      rw [applied]
      rfl
  | @cons pair pair' pairs pairs' first _ ih =>
      obtain ⟨operator, node⟩ := pair
      obtain ⟨operator', node'⟩ := pair'
      obtain ⟨rfl, becomes⟩ := first
      obtain ⟨spine', tree', applied, ordered', same⟩ :=
        @applyPreceding_spine spine (.operand operand) done operator ordered trivial nofun nofun
      obtain ⟨tree, orderedTree, reads, grouped⟩ := ih node' ordered'
      refine ⟨tree, orderedTree, ?_, ?_⟩
      · rw [reads, same]
        rfl
      · simp only [Tree.toNode] at applied
        rw [← grouped, List.flatMap_cons, Statement.pair, List.append_assoc, List.cons_append,
          groupFrom_operator, applied]
        simp only [Bind.bind, Except.bind]
        rw [List.cons_append, List.nil_append, groupFrom_operand _ _ becomes.isOperator_eq,
          becomes.grouped_eq]
        rfl

/-- A whole statement gives the node of the tree over it. -/
theorem groupFrom_statement (done : List Node) {later : List Node}
    (ends : ∀ node ∈ later.head?, node.isOperator = false) {statement statement' : Statement}
    (groups : statement.GroupsTo statement') :
    ∃ tree : Tree, tree.IsOrdered ∧ tree.reading = statement' ∧
      groupFrom done [] false (statement.nodes ++ later) =
        groupFrom (tree.toNode :: done) [] false later := by
  obtain ⟨tree, ordered, reads, grouped⟩ :=
    @groupFrom_pairs .top done _ ends _ _ groups.rest statement'.first trivial
  refine ⟨tree, ordered, reads, ?_⟩
  rw [← grouped, Statement.nodes, List.cons_append, groupFrom_operand _ _ groups.first.isOperator_eq,
    groups.first.grouped_eq]
  rfl

/-- Statements in a row give the nodes of their trees. -/
theorem groupFrom_statements (done : List Node) {statements statements' : List Statement}
    (groups : List.Forall₂ Statement.GroupsTo statements statements') :
    ∃ trees : List Tree,
      List.Forall₂ (fun statement' tree => tree.IsOrdered ∧ tree.reading = statement') statements'
        trees ∧
      groupFrom done [] false (statements.flatMap Statement.nodes) =
        .ok (done.reverse ++ trees.map Tree.toNode) := by
  induction groups generalizing done with
  | nil =>
      refine ⟨[], .nil, ?_⟩
      rw [List.flatMap_nil, groupFrom, applyAll_nil, List.map_nil, List.append_nil]
      rfl
  | @cons statement statement' statements _ first others ih =>
      have ends : ∀ node ∈ (statements.flatMap Statement.nodes).head?, node.isOperator = false := by
        cases others with
        | nil => exact nofun
        | cons next _ =>
            rintro _ ⟨⟩
            exact next.first.isOperator_eq
      obtain ⟨tree, ordered, reads, grouped⟩ := groupFrom_statement done ends first
      obtain ⟨trees, each, rest⟩ := ih (tree.toNode :: done)
      refine ⟨tree :: trees, .cons ⟨ordered, reads⟩ each, ?_⟩
      rw [List.flatMap_cons, grouped, rest]
      simp

theorem Statement.GroupsTo.exists_of_operands {statement : Statement}
    (operands : ∀ operand ∈ statement.operands, ∃ node, operand.GroupsTo node) :
    ∃ statement', statement.GroupsTo statement' := by
  obtain ⟨first, rest⟩ := List.forall_mem_cons.mp operands
  obtain ⟨first', becomes⟩ := first
  have pairs : ∀ pairs : List (PendingOperator × Node),
      (∀ operand ∈ pairs.map (·.2), ∃ node, operand.GroupsTo node) →
      ∃ pairs', List.Forall₂ PairGroupsTo pairs pairs' := by
    intro pairs each
    induction pairs with
    | nil => exact ⟨[], .nil⟩
    | cons pair pairs ih =>
        obtain ⟨⟨node, here⟩, others⟩ := List.forall_mem_cons.mp each
        obtain ⟨pairs', inOrder⟩ := ih others
        exact ⟨(pair.1, node) :: pairs', .cons ⟨rfl, here⟩ inOrder⟩
  obtain ⟨rest', inOrder⟩ := pairs statement.rest rest
  exact ⟨⟨first', rest'⟩, becomes, inOrder⟩

end Grouping

/-! ## Well-formed input -/

/-- A node that is no operator; if it is a bracket, its children are statements in a row whose
    operands are such nodes in turn. -/
inductive Node.IsOperand : Node → Prop
  | leaf {kind : LeafKind} (text : String) (loc : Option Span) (operand : kind ≠ .operator) :
      IsOperand (.leaf kind text loc)
  | binop (left : Node) (operator : String) (right : Node) (loc : Option Span) :
      IsOperand (.binop left operator right loc)
  | bracket {statements : List Statement} (kind : Bracket) (loc : Option Span)
      (inner : ∀ statement ∈ statements, ∀ operand ∈ statement.operands, operand.IsOperand) :
      IsOperand (.bracket kind (statements.flatMap Statement.nodes) loc)

namespace Grouping

def Statement.IsWellFormed (statement : Statement) : Prop :=
  ∀ operand ∈ statement.operands, operand.IsOperand

theorem Statement.isWellFormed_iff {statement : Statement} :
    statement.IsWellFormed ↔
      statement.first.IsOperand ∧ ∀ pair ∈ statement.rest, pair.2.IsOperand := by
  rw [IsWellFormed, operands, List.forall_mem_cons, List.forall_mem_map]

/-- Grouping succeeds on statements whose operands can be grouped. -/
theorem groupOperators_of_operands {statements : List Statement}
    (operands : ∀ statement ∈ statements, ∀ operand ∈ statement.operands,
      ∃ node, operand.GroupsTo node) :
    ∃ (statements' : List Statement) (trees : List Tree),
      List.Forall₂ Statement.GroupsTo statements statements' ∧
      List.Forall₂ (fun statement' tree => tree.IsOrdered ∧ tree.reading = statement') statements'
        trees ∧
      groupOperators (statements.flatMap Statement.nodes) = .ok (trees.map Tree.toNode) := by
  have each : ∃ statements', List.Forall₂ Statement.GroupsTo statements statements' := by
    induction statements with
    | nil => exact ⟨[], .nil⟩
    | cons statement statements ih =>
        obtain ⟨here, others⟩ := List.forall_mem_cons.mp operands
        obtain ⟨statement', becomes⟩ := Statement.GroupsTo.exists_of_operands here
        obtain ⟨statements', inOrder⟩ := ih others
        exact ⟨statement' :: statements', .cons becomes inOrder⟩
  obtain ⟨statements', groups⟩ := each
  obtain ⟨trees, ordered, grouped⟩ := groupFrom_statements [] groups
  refine ⟨statements', trees, groups, ordered, ?_⟩
  rw [groupOperators, groupFrom_settle, applyAll_nil]
  · exact grouped
  · cases groups with
    | nil => exact nofun
    | cons first _ =>
        rintro _ ⟨⟩
        exact first.first.isOperator_eq

theorem exists_groupsTo {node : Node} (operand : node.IsOperand) :
    ∃ node', node.GroupsTo node' := by
  induction operand with
  | leaf text loc operand => exact ⟨_, .leaf text loc operand⟩
  | binop left operator right loc => exact ⟨_, .binop left operator right loc⟩
  | bracket kind loc _ ih =>
      obtain ⟨_, _, _, _, grouped⟩ := groupOperators_of_operands ih
      exact ⟨_, .bracket kind loc grouped⟩

end Grouping

/-- What a statement becomes has one ordered tree over it. -/
theorem Grouping.Statement.GroupsTo.tree_unique {statement statement' : Statement}
    (groups : statement.GroupsTo statement') {tree : Tree} (ordered : tree.IsOrdered)
    (reads : tree.reading = statement') (other : Tree) :
    statement.GroupsTo other.reading ∧ other.IsOrdered ↔ other = tree := by
  constructor
  · rintro ⟨groups', ordered'⟩
    exact ordered'.unique ordered ((groups'.unique groups).trans reads.symm)
  · rintro rfl
    exact ⟨reads ▸ groups, ordered⟩

/-- Where every operator stands between two operands, grouping succeeds with one node for each
    statement: that of the only tree that reads as the statement does, with its brackets grouped,
    and that agrees with priorities and associativity. -/
theorem groupOperators_statements {statements : List Statement}
    (wellFormed : ∀ statement ∈ statements, statement.IsWellFormed) :
    ∃ trees : List Tree,
      groupOperators (statements.flatMap Statement.nodes) = .ok (trees.map Tree.toNode) ∧
      List.Forall₂ (fun statement tree => ∀ other : Tree,
        statement.GroupsTo other.reading ∧ other.IsOrdered ↔ other = tree) statements trees := by
  obtain ⟨statements', trees, groups, ordered, grouped⟩ :=
    groupOperators_of_operands fun statement mem operand part =>
      exists_groupsTo (wellFormed statement mem operand part)
  refine ⟨trees, grouped, ?_⟩
  clear grouped wellFormed
  induction groups generalizing trees with
  | nil =>
      cases ordered
      exact .nil
  | cons first _ ih =>
      obtain _ | ⟨⟨orderedTree, reads⟩, others⟩ := ordered
      exact .cons (first.tree_unique orderedTree reads) (ih _ others)

/-- An operator and the operand behind it, without places. -/
def Grouping.behind (operator : String) (operand : Node) : PendingOperator × Node :=
  (⟨operator, none⟩, operand)

/-- Two statements: one with operators that associate to either side and a bracket among its
    operands, and a name. -/
theorem groupOperators_statements_mixed :
    let sum : Statement := ⟨.ident "x", [behind "+" (.ident "y")]⟩
    let first : Statement := ⟨.ident "a", [behind "=" (.ident "b"), behind "=" (.square sum.nodes),
      behind "-" (.ident "c"), behind "-" (.ident "d")]⟩
    let second : Statement := ⟨.ident "f", []⟩
    let bracket : Node := .square [.binary (.ident "x") "+" (.ident "y")]
    let difference : Node := .binary (.binary bracket "-" (.ident "c")) "-" (.ident "d")
    (∀ statement ∈ [first, second], statement.IsWellFormed) ∧
      groupOperators ([first, second].flatMap Statement.nodes) =
        .ok [.binary (.ident "a") "=" (.binary (.ident "b") "=" difference), .ident "f"] := by
  intro sum first second bracket difference
  have name : ∀ text, (Node.ident text).IsOperand := fun text => .leaf text none nofun
  have inner : (Node.square ([sum].flatMap Statement.nodes)).IsOperand := by
    refine .bracket .square none (List.forall_mem_singleton.mpr ?_)
    exact Statement.isWellFormed_iff.mpr ⟨name _, List.forall_mem_singleton.mpr (name _)⟩
  have wellFormed : ∀ statement ∈ [first, second], statement.IsWellFormed := by
    simp only [List.forall_mem_cons, Statement.isWellFormed_iff, first, second]
    exact ⟨⟨name _, name _, inner, name _, name _, nofun⟩, ⟨name _, nofun⟩, nofun⟩
  obtain ⟨trees, grouped, unique⟩ := groupOperators_statements wellFormed
  obtain _ | ⟨firstTree, _ | ⟨secondTree, _ | _⟩⟩ := unique
  -- the tree that the first statement is expected to have is ordered and reads as the statement
  let operation (operator : String) (left right : Tree) : Tree :=
    .operation left ⟨operator, none⟩ right
  let tree : Tree := operation "=" (.operand (.ident "a")) (operation "=" (.operand (.ident "b"))
    (operation "-" (operation "-" (.operand bracket) (.operand (.ident "c")))
      (.operand (.ident "d"))))
  have leaf : ∀ text, (Node.ident text).GroupsTo (.ident text) := fun text => .leaf text none nofun
  have becomes : first.GroupsTo tree.reading :=
    ⟨leaf "a", .cons ⟨rfl, leaf "b"⟩ (.cons ⟨rfl, .bracket .square none rfl⟩
      (.cons ⟨rfl, leaf "c"⟩ (.cons ⟨rfl, leaf "d"⟩ .nil)))⟩
  have ordered : tree.IsOrdered := by
    simp [tree, operation, Tree.IsOrdered, Tree.root?, PendingOperator.Below, PendingOperator.info,
      operatorInfo]
  obtain rfl := (firstTree tree).mp ⟨becomes, ordered⟩
  obtain rfl := (secondTree (.operand (.ident "f"))).mp ⟨⟨leaf "f", .nil⟩, trivial⟩
  exact ⟨wellFormed, grouped⟩

end TreeMacros
