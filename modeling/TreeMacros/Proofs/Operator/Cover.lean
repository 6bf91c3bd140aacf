import TreeMacros.Proofs.Operator.Forest

/-! # What operations cover

An operation is located from the start of its first operand to the stop of its last one, wherever
the rest of it stands. So it covers its parts if nothing under it starts before the first operand
or stops after the last one. That is so where operators stand between their operands and all nodes
in the order of the text. Where nodes have been moved, an operation may even stop before it starts.
-/

namespace TreeMacros

open Grouping

namespace Span

/-- The stretch of text of the first span holds that of the second. -/
def Covers (whole part : Span) : Prop :=
  whole.start.index ≤ part.start.index ∧ part.stop.index ≤ whole.stop.index

variable {whole part inner : Span}

theorem Covers.refl (span : Span) : span.Covers span :=
  ⟨UInt64.le_refl _, UInt64.le_refl _⟩

theorem Covers.trans (outer : whole.Covers part) (deeper : part.Covers inner) :
    whole.Covers inner :=
  ⟨UInt64.le_trans outer.1 deeper.1, UInt64.le_trans deeper.2 outer.2⟩

end Span

/-- The second node neither starts nor stops before the first one does. -/
def Node.Precedes (node next : Node) : Prop :=
  ∀ span ∈ node.loc, ∀ span' ∈ next.loc,
    span.start.index ≤ span'.start.index ∧ span.stop.index ≤ span'.stop.index

theorem Node.Precedes.refl (node : Node) : node.Precedes node := by
  intro span here span' here'
  obtain rfl := Option.mem_unique here here'
  exact ⟨UInt64.le_refl _, UInt64.le_refl _⟩

namespace Grouping

namespace Tree

/-- The operands and operators of a tree, from left to right. -/
def tokens : Tree → List Node
  | operand node => [node]
  | operation left operator right => left.tokens ++ operator.node :: right.tokens

/-- The first operand of a tree. -/
def first : Tree → Node
  | operand node => node
  | operation left _ _ => left.first

/-- The last operand of a tree. -/
def last : Tree → Node
  | operand node => node
  | operation _ _ right => right.last

/-- The second tree is the first one or stands in it. -/
inductive Contains : Tree → Tree → Prop
  | self (tree : Tree) : Contains tree tree
  | left {left right inner : Tree} {operator : PendingOperator} (deeper : Contains left inner) :
      Contains (.operation left operator right) inner
  | right {left right inner : Tree} {operator : PendingOperator} (deeper : Contains right inner) :
      Contains (.operation left operator right) inner

/-- An operation is located and covers its operator and both of its operands. -/
def CoversParts : Tree → Prop
  | operand _ => True
  | operation left operator right =>
    ∃ whole, (operation left operator right).toNode.loc = some whole ∧
      ∀ part ∈ [left.toNode, operator.node, right.toNode],
        ∃ span, part.loc = some span ∧ whole.Covers span

/-- The tree is located from the start of its first operand to the stop of its last one. -/
def Spans (tree : Tree) : Prop :=
  ∃ first last, tree.first.loc = some first ∧ tree.last.loc = some last ∧
    tree.toNode.loc = some ⟨first.start, last.stop⟩

/-- No token of the tree starts before its first operand or stops after its last one. -/
def IsFramed (tree : Tree) : Prop :=
  ∀ first ∈ tree.first.loc, ∀ last ∈ tree.last.loc, ∀ token ∈ tree.tokens, ∀ span ∈ token.loc,
    first.start.index ≤ span.start.index ∧ span.stop.index ≤ last.stop.index

/-- All tokens of the tree are located. -/
def IsLocated (tree : Tree) : Prop :=
  ∀ token ∈ tree.tokens, token.loc.isSome = true

variable {tree middle inner left right : Tree} {operator : PendingOperator}

/-! ## Tokens -/

theorem first_mem (tree : Tree) : tree.first ∈ tree.tokens := by
  induction tree with
  | operand node => exact List.mem_singleton_self node
  | operation left operator right ihLeft ihRight => exact List.mem_append_left _ ihLeft

theorem last_mem (tree : Tree) : tree.last ∈ tree.tokens := by
  induction tree with
  | operand node => exact List.mem_singleton_self node
  | operation left operator right ihLeft ihRight =>
      exact List.mem_append_right _ (List.mem_cons_of_mem _ ihRight)

theorem mem_tokens {token : Node} :
    token ∈ tree.tokens ↔
      token ∈ tree.operands ∨ ∃ operator ∈ tree.operators, operator.node = token := by
  induction tree with
  | operand node => simp [tokens, operands, operators]
  | operation left operator right ihLeft ihRight =>
      simp only [tokens, operands, operators, List.mem_append, List.mem_cons, ihLeft, ihRight]
      constructor
      · rintro ((operand | ⟨other, mem, same⟩) | rfl | operand | ⟨other, mem, same⟩)
        · exact .inl (.inl operand)
        · exact .inr ⟨other, .inl mem, same⟩
        · exact .inr ⟨operator, .inr (.inl rfl), rfl⟩
        · exact .inl (.inr operand)
        · exact .inr ⟨other, .inr (.inr mem), same⟩
      · rintro ((operand | operand) | ⟨other, mem | rfl | mem, same⟩)
        · exact .inl (.inl operand)
        · exact .inr (.inr (.inl operand))
        · exact .inl (.inr ⟨other, mem, same⟩)
        · exact .inr (.inl same.symm)
        · exact .inr (.inr (.inr ⟨other, mem, same⟩))

theorem Contains.tokens_sublist (contains : tree.Contains inner) :
    inner.tokens.Sublist tree.tokens := by
  induction contains with
  | self tree => exact .refl _
  | left _ ih => exact ih.trans (List.sublist_append_left _ _)
  | right _ ih =>
      exact ih.trans ((List.sublist_cons_self _ _).trans (List.sublist_append_right _ _))

theorem IsLocated.of_contains (located : tree.IsLocated) (contains : tree.Contains inner) :
    inner.IsLocated :=
  fun token mem => located token (contains.tokens_sublist.subset mem)

/-! ## Spans -/

theorem IsLocated.spans (located : tree.IsLocated) : tree.Spans := by
  induction tree with
  | operand node =>
      obtain ⟨span, here⟩ := Option.isSome_iff_exists.mp (located node (List.mem_singleton_self _))
      exact ⟨span, span, here, here, here⟩
  | operation left operator right ihLeft ihRight =>
      obtain ⟨first, second, isFirst, -, leftLoc⟩ := ihLeft (located.of_contains (.left (.self _)))
      obtain ⟨third, last, -, isLast, rightLoc⟩ := ihRight (located.of_contains (.right (.self _)))
      obtain ⟨middle, here⟩ := Option.isSome_iff_exists.mp
        (located operator.node (List.mem_append_right _ (List.mem_cons_self ..)))
      have here : operator.loc = some middle := here
      refine ⟨first, last, isFirst, isLast, ?_⟩
      show Span.join (Span.join left.toNode.loc operator.loc) right.toNode.loc = _
      rw [leftLoc, here, rightLoc]
      rfl

/-- Where all operations cover their parts, a tree covers its tokens. -/
theorem covers_token (covers : ∀ inner, tree.Contains inner → inner.CoversParts) {whole : Span}
    (here : tree.toNode.loc = some whole) {token : Node} (mem : token ∈ tree.tokens) {span : Span}
    (there : token.loc = some span) : whole.Covers span := by
  induction tree generalizing whole with
  | operand node =>
      obtain rfl := List.mem_singleton.mp mem
      obtain rfl := Option.some.inj (here.symm.trans there)
      exact .refl _
  | operation left operator right ihLeft ihRight =>
      obtain ⟨outer, isOuter, parts⟩ := covers _ (.self _)
      obtain rfl := Option.some.inj (here.symm.trans isOuter)
      simp only [List.forall_mem_cons] at parts
      obtain ⟨⟨leftSpan, leftLoc, coversLeft⟩, ⟨middle, loc, coversMiddle⟩,
        ⟨rightSpan, rightLoc, coversRight⟩, -⟩ := parts
      rcases List.mem_append.mp mem with inLeft | inRest
      · have inside := ihLeft (fun inner deeper => covers inner (.left deeper)) leftLoc inLeft
        exact coversLeft.trans inside
      · rcases List.mem_cons.mp inRest with rfl | inRight
        · obtain rfl := Option.some.inj (loc.symm.trans there)
          exact coversMiddle
        · exact coversRight.trans
            (ihRight (fun inner deeper => covers inner (.right deeper)) rightLoc inRight)

theorem Contains.trans (outer : tree.Contains middle) (deeper : middle.Contains inner) :
    tree.Contains inner := by
  induction outer with
  | self tree => exact deeper
  | left _ ih => exact .left (ih deeper)
  | right _ ih => exact .right (ih deeper)

theorem IsFramed.coversParts (framed : tree.IsFramed) (located : tree.IsLocated) :
    tree.CoversParts := by
  cases tree with
  | operand node => trivial
  | operation left operator right =>
      obtain ⟨first, last, isFirst, isLast, whole⟩ := located.spans
      obtain ⟨_, second, isFirst', isSecond, leftLoc⟩ :=
        (located.of_contains (.left (.self left))).spans
      obtain ⟨third, _, isThird, isLast', rightLoc⟩ :=
        (located.of_contains (.right (.self right))).spans
      obtain rfl := Option.some.inj (isFirst.symm.trans isFirst')
      obtain rfl := Option.some.inj (isLast.symm.trans isLast')
      have isToken : operator.node ∈ (operation left operator right).tokens :=
        List.mem_append_right _ (List.mem_cons_self ..)
      obtain ⟨place, here⟩ := Option.isSome_iff_exists.mp (located operator.node isToken)
      have covered : ∀ token ∈ (operation left operator right).tokens, ∀ span ∈ token.loc,
          first.start.index ≤ span.start.index ∧ span.stop.index ≤ last.stop.index :=
        framed first isFirst last isLast
      refine ⟨_, whole, List.forall_mem_cons.mpr ⟨⟨_, leftLoc, UInt64.le_refl _, ?_⟩,
        List.forall_mem_cons.mpr ⟨⟨place, here, covered _ isToken place here⟩,
        List.forall_mem_singleton.mpr ⟨_, rightLoc, ?_, UInt64.le_refl _⟩⟩⟩⟩
      · exact (covered left.last (List.mem_append_left _ left.last_mem) second isSecond).2
      · exact (covered right.first
          (List.mem_append_right _ (List.mem_cons_of_mem _ right.first_mem)) third isThird).1

/-- All operations of a tree cover their parts exactly if all of them are framed. -/
theorem coversParts_iff (located : tree.IsLocated) :
    (∀ inner, tree.Contains inner → inner.CoversParts) ↔
      ∀ inner, tree.Contains inner → inner.IsFramed := by
  constructor
  · intro covers inner contains first isFirst last isLast token mem span there
    obtain ⟨first', last', isFirst', isLast', whole⟩ := (located.of_contains contains).spans
    obtain rfl := Option.some.inj (isFirst.symm.trans isFirst')
    obtain rfl := Option.some.inj (isLast.symm.trans isLast')
    have below := fun deepest deeper => covers deepest (contains.trans deeper)
    exact covers_token below whole mem there
  · intro framed inner contains
    exact (framed inner contains).coversParts (located.of_contains contains)

theorem first_precedes (inOrder : tree.tokens.Pairwise Node.Precedes) {token : Node}
    (mem : token ∈ tree.tokens) : tree.first.Precedes token := by
  have starts : ∃ rest, tree.tokens = tree.first :: rest := by
    clear inOrder mem
    induction tree with
    | operand node => exact ⟨[], rfl⟩
    | operation left operator right ihLeft _ =>
        obtain ⟨rest, same⟩ := ihLeft
        exact ⟨rest ++ operator.node :: right.tokens, by simp [tokens, first, same]⟩
  obtain ⟨rest, same⟩ := starts
  rw [same] at inOrder mem
  obtain rfl | later := List.mem_cons.mp mem
  · exact .refl _
  · exact (List.pairwise_cons.mp inOrder).1 token later

theorem precedes_last (inOrder : tree.tokens.Pairwise Node.Precedes) {token : Node}
    (mem : token ∈ tree.tokens) : token.Precedes tree.last := by
  have ends : ∃ rest, tree.tokens = rest ++ [tree.last] := by
    clear inOrder mem
    induction tree with
    | operand node => exact ⟨[], rfl⟩
    | operation left operator right _ ihRight =>
        obtain ⟨rest, same⟩ := ihRight
        exact ⟨left.tokens ++ operator.node :: rest, by simp [tokens, last, same]⟩
  obtain ⟨rest, same⟩ := ends
  rw [same] at inOrder mem
  obtain earlier | here := List.mem_append.mp mem
  · exact (List.pairwise_append.mp inOrder).2.2 token earlier _ (List.mem_singleton_self _)
  · obtain rfl := List.mem_singleton.mp here
    exact .refl _

/-- Tokens in the order of the text are framed. -/
theorem isFramed_of_pairwise (inOrder : tree.tokens.Pairwise Node.Precedes) : tree.IsFramed := by
  intro first isFirst last isLast token mem span there
  exact ⟨(first_precedes inOrder mem first isFirst span there).1,
    (precedes_last inOrder mem span there last isLast).2⟩

/-! ## Readings -/

theorem tokens_eq (tree : Tree) : tree.tokens = tree.reading.nodes := by
  induction tree with
  | operand node => rfl
  | operation left operator right ihLeft ihRight =>
      simp [tokens, reading, ihLeft, ihRight, Statement.nodes, Statement.join, Statement.pair]

theorem operands_eq (tree : Tree) : tree.operands = tree.reading.operands := by
  induction tree with
  | operand node => rfl
  | operation left operator right ihLeft ihRight =>
      simp [operands, reading, ihLeft, ihRight, Statement.operands, Statement.join]

theorem operators_eq (tree : Tree) : tree.operators = tree.reading.rest.map (·.1) := by
  induction tree with
  | operand node => rfl
  | operation left operator right ihLeft ihRight =>
      simp [operators, reading, ihLeft, ihRight, Statement.join]

end Tree

/-! ## Rows of statements -/

theorem last_of_cons {node : Node} {rest : List Node}
    (last : ∀ final ∈ (node :: rest).getLast?, final.isOperator = false) :
    ∀ final ∈ rest.getLast?, final.isOperator = false := by
  intro final mem
  refine last final ?_
  simp [List.getLast?_cons, Option.mem_def.mp mem]

/-- Behind an operand, pairs come first and then more statements. -/
theorem exists_pairs {nodes : List Node} (last : ∀ node ∈ nodes.getLast?, node.isOperator = false)
    (apart : nodes.IsChain fun left right => left.isOperator = false ∨ right.isOperator = false) :
    ∃ (pairs : List (PendingOperator × Node)) (statements : List Statement),
      nodes = pairs.flatMap Statement.pair ++ statements.flatMap Statement.nodes ∧
      (∀ pair ∈ pairs, pair.2.isOperator = false) ∧
      ∀ statement ∈ statements, ∀ operand ∈ statement.operands, operand.isOperator = false := by
  cases nodes with
  | nil => exact ⟨[], [], rfl, by simp, by simp⟩
  | cons node rest =>
      cases kind : node.isOperator with
      | false =>
          obtain ⟨pairs, statements, rfl, operands, others⟩ :=
            exists_pairs (last_of_cons last) apart.tail
          refine ⟨[], ⟨node, pairs⟩ :: statements, by simp [Statement.nodes], by simp, ?_⟩
          refine List.forall_mem_cons.mpr ⟨List.forall_mem_cons.mpr ⟨kind, ?_⟩, others⟩
          exact List.forall_mem_map.mpr operands
      | true =>
          obtain ⟨operator, rfl⟩ := isOperator_iff.mp kind
          cases rest with
          | nil => cases last _ rfl
          | cons operand later =>
              have here : operand.isOperator = false := by simpa [kind] using apart.rel
              obtain ⟨pairs, statements, rfl, operands, others⟩ :=
                exists_pairs (last_of_cons (last_of_cons last)) apart.tail.tail
              exact ⟨(operator, operand) :: pairs, statements, by simp [Statement.pair],
                List.forall_mem_cons.mpr ⟨here, operands⟩, others⟩

/-- A list in which every operator stands between two operands is a row of statements. -/
theorem exists_statements {nodes : List Node} (paired : IsPaired nodes) :
    ∃ statements : List Statement, nodes = statements.flatMap Statement.nodes ∧
      ∀ statement ∈ statements, ∀ operand ∈ statement.operands, operand.isOperator = false := by
  obtain ⟨pairs, statements, same, operands, others⟩ := exists_pairs paired.last paired.apart
  cases pairs with
  | nil => exact ⟨statements, same, others⟩
  | cons pair pairs => cases paired.first pair.1.node (by rw [same]; rfl)

theorem Statement.operands_sublist (statement : Statement) :
    statement.operands.Sublist statement.nodes := by
  rw [operands, nodes]
  refine .cons_cons _ ?_
  induction statement.rest with
  | nil => exact .refl _
  | cons pair pairs ih => exact .cons _ (.cons_cons _ ih)

section Statements

variable {statement statement' : Statement} {pairs pairs' : List (PendingOperator × Node)}

theorem operands_of_pairs (groups : List.Forall₂ PairGroupsTo pairs pairs') :
    List.Forall₂ Node.GroupsTo ((pairs.flatMap Statement.pair).filter (!·.isOperator))
      (pairs'.map (·.2)) := by
  induction groups with
  | nil => exact .nil
  | @cons pair pair' _ _ first _ ih =>
      obtain ⟨-, groups⟩ := first
      have operator : pair.1.node.isOperator = true := rfl
      rw [List.flatMap_cons, Statement.pair, List.cons_append,
        List.filter_cons_of_neg (by simp [operator]), List.cons_append,
        List.filter_cons_of_pos (by simp [groups.isOperator_eq])]
      exact .cons groups ih

theorem operators_of_pairs (groups : List.Forall₂ PairGroupsTo pairs pairs') :
    (pairs.flatMap Statement.pair).filter Node.isOperator =
      (pairs'.map (·.1)).map PendingOperator.node := by
  induction groups with
  | nil => rfl
  | @cons pair pair' _ _ first _ ih =>
      obtain ⟨same, groups⟩ := first
      rw [List.flatMap_cons, Statement.pair, List.cons_append, List.filter_cons_of_pos rfl,
        List.cons_append, List.filter_cons_of_neg (by simp [groups.isOperator_eq]), same]
      exact congrArg _ ih

theorem locs_of_pairs (groups : List.Forall₂ PairGroupsTo pairs pairs') :
    (pairs'.flatMap Statement.pair).map Node.loc = (pairs.flatMap Statement.pair).map Node.loc := by
  induction groups with
  | nil => rfl
  | @cons pair pair' _ _ first _ ih =>
      obtain ⟨same, groups⟩ := first
      simp [Statement.pair, same, groups.loc_eq, ih]

theorem IsForest.of_statement {tree : Tree} (groups : statement.GroupsTo tree.reading) :
    IsForest statement.nodes [tree] where
  operands := by
    rw [Statement.nodes, List.filter_cons_of_pos (by simp [groups.first.isOperator_eq]),
      List.flatMap_singleton, tree.operands_eq]
    exact .cons groups.first (operands_of_pairs groups.rest)
  operators := by
    rw [Statement.nodes, List.filter_cons_of_neg (by simp [groups.first.isOperator_eq]),
      List.flatMap_singleton, tree.operators_eq, operators_of_pairs groups.rest]

theorem IsForest.append {nodes nodes' : List Node} {trees trees' : List Tree}
    (forest : IsForest nodes trees) (forest' : IsForest nodes' trees') :
    IsForest (nodes ++ nodes') (trees ++ trees') where
  operands := by
    rw [List.filter_append, List.flatMap_append]
    exact List.rel_append forest.operands forest'.operands
  operators := by
    rw [List.filter_append, List.flatMap_append, List.map_append]
    exact forest.operators.append forest'.operators

theorem locs_of_statement (groups : statement.GroupsTo statement') :
    statement'.nodes.map Node.loc = statement.nodes.map Node.loc := by
  rw [Statement.nodes, Statement.nodes, List.map_cons, List.map_cons, groups.first.loc_eq,
    locs_of_pairs groups.rest]

/-- The tokens of a tree over a statement stand in the order in which those of the statement do. -/
theorem pairwise_of_statement {tree : Tree} (groups : statement.GroupsTo tree.reading)
    (inOrder : statement.nodes.Pairwise Node.Precedes) : tree.tokens.Pairwise Node.Precedes := by
  let Precedes (loc loc' : Option Span) : Prop := ∀ span ∈ loc, ∀ span' ∈ loc',
    span.start.index ≤ span'.start.index ∧ span.stop.index ≤ span'.stop.index
  have places : (statement.nodes.map Node.loc).Pairwise Precedes := List.pairwise_map.mpr inOrder
  rw [← locs_of_statement groups] at places
  rw [tree.tokens_eq]
  have tokens := List.pairwise_map.mp places
  exact tokens

end Statements

theorem IsForest.exists_groupsTo {nodes : List Node} {trees : List Tree}
    (forest : IsForest nodes trees) {node : Node} (mem : node ∈ nodes)
    (operand : node.isOperator = false) : ∃ node', node.GroupsTo node' := by
  have kept : node ∈ nodes.filter (!·.isOperator) := List.mem_filter.mpr ⟨mem, by simp [operand]⟩
  obtain ⟨index, bound, rfl⟩ := List.getElem_of_mem kept
  obtain ⟨lengths, each⟩ := List.forall₂_iff_get.mp forest.operands
  exact ⟨_, each index bound (by omega)⟩

/-- Where every operator stands between two operands, the trees are over one statement each. -/
theorem exists_forest_paired {nodes results : List Node} (paired : IsPaired nodes)
    (grouped : groupOperators nodes = .ok results) :
    ∃ trees, results = trees.map Tree.toNode ∧ IsForest nodes trees ∧
      (nodes.Pairwise Node.Precedes → ∀ tree ∈ trees, tree.tokens.Pairwise Node.Precedes) := by
  obtain ⟨_, -, forest⟩ := exists_forest grouped
  obtain ⟨statements, rfl, operands⟩ := exists_statements paired
  have groups : ∀ statement ∈ statements, ∀ operand ∈ statement.operands,
      ∃ node, operand.GroupsTo node := by
    intro statement mem operand part
    have inList : operand ∈ statement.nodes :=
      (Statement.operands_sublist statement).subset part
    exact forest.exists_groupsTo (List.mem_flatMap_of_mem mem inList)
      (operands statement mem operand part)
  obtain ⟨statements', trees, becomes, ordered, grouped'⟩ := groupOperators_of_operands groups
  obtain rfl := Except.ok.inj (grouped.symm.trans grouped')
  refine ⟨trees, rfl, ?_⟩
  clear grouped grouped' groups operands paired forest
  induction becomes generalizing trees with
  | nil =>
      cases ordered
      exact ⟨⟨.nil, .refl _⟩, fun _ => by simp⟩
  | cons first _ ih =>
      obtain _ | ⟨⟨-, reads⟩, others⟩ := ordered
      subst reads
      obtain ⟨forest, inOrder⟩ := ih _ others
      refine ⟨(IsForest.of_statement first).append forest, fun precedes => ?_⟩
      obtain ⟨here, later, -⟩ := List.pairwise_append.mp precedes
      exact List.forall_mem_cons.mpr ⟨pairwise_of_statement first here, inOrder later⟩

/-- Where a list can be grouped, so can the lists in its brackets. -/
theorem Encloses.exists_grouped {nodes inner results : List Node} (reached : Encloses nodes inner)
    (grouped : groupOperators nodes = .ok results) :
    ∃ results', groupOperators inner = .ok results' := by
  induction reached generalizing results with
  | whole => exact ⟨results, grouped⟩
  | inside mem _ ih =>
      obtain ⟨_, -, forest⟩ := exists_forest grouped
      obtain ⟨_, groups⟩ := forest.exists_groupsTo mem rfl
      cases groups with
      | bracket kind loc inner => exact ih inner

theorem IsForest.isLocated {nodes : List Node} {trees : List Tree} (forest : IsForest nodes trees)
    (located : ∀ node ∈ nodes, node.loc.isSome = true) {tree : Tree} (mem : tree ∈ trees) :
    tree.IsLocated := by
  intro token isToken
  obtain operand | ⟨operator, mem', rfl⟩ := Tree.mem_tokens.mp isToken
  · obtain ⟨node, here, groups⟩ := forest.exists_operand mem operand
    rw [groups.loc_eq]
    exact located node here
  · exact located _ (forest.operator_mem mem mem')

end Grouping

/-- Where all nodes are located, what grouping builds of a list, or of a list in a bracket, is
    located from the start of its first operand to the stop of its last one. All operations of a
    tree cover their parts exactly if under each of them nothing starts before its first operand or
    stops after its last one. That is so if operators stand between their operands and nodes stand
    in the order of the text. -/
theorem groupOperators_covers {nodes results : List Node}
    (located : ∀ inner, Encloses nodes inner → ∀ node ∈ inner, node.loc.isSome = true)
    (grouped : groupOperators nodes = .ok results) (inner : List Node)
    (reached : Encloses nodes inner) :
    ∃ trees, groupOperators inner = .ok (trees.map Tree.toNode) ∧ IsForest inner trees ∧
      (∀ tree ∈ trees, ∀ part, tree.Contains part → part.Spans) ∧
      (∀ tree ∈ trees, (∀ part, tree.Contains part → part.CoversParts) ↔
        ∀ part, tree.Contains part → part.IsFramed) ∧
      (IsPaired inner → inner.Pairwise Node.Precedes →
        ∀ tree ∈ trees, ∀ part, tree.Contains part → part.CoversParts) := by
  obtain ⟨results', inGroups⟩ := reached.exists_grouped grouped
  -- the trees are chosen so that they keep the order of the list, if it has one
  have chosen : ∃ trees, results' = trees.map Tree.toNode ∧ IsForest inner trees ∧
      (IsPaired inner → inner.Pairwise Node.Precedes →
        ∀ tree ∈ trees, tree.tokens.Pairwise Node.Precedes) := by
    by_cases paired : IsPaired inner
    · obtain ⟨trees, same, forest, inOrder⟩ := exists_forest_paired paired inGroups
      exact ⟨trees, same, forest, fun _ => inOrder⟩
    · obtain ⟨trees, same, forest⟩ := exists_forest inGroups
      exact ⟨trees, same, forest, fun isPaired => (paired isPaired).elim⟩
  obtain ⟨trees, rfl, forest, inOrder⟩ := chosen
  have places : ∀ tree ∈ trees, tree.IsLocated :=
    fun tree mem => forest.isLocated (located inner reached) mem
  refine ⟨trees, inGroups, forest, ?_, ?_, ?_⟩
  · intro tree mem part contains
    exact ((places tree mem).of_contains contains).spans
  · intro tree mem
    exact Tree.coversParts_iff (places tree mem)
  · intro paired precedes tree mem part contains
    have tokens := (inOrder paired precedes tree mem).sublist contains.tokens_sublist
    exact (Tree.isFramed_of_pairwise tokens).coversParts ((places tree mem).of_contains contains)

/-- An identifier that stands at one place. -/
def Node.identAt (text : String) (index : UInt64) : Node :=
  .leaf .identifier text (some ⟨⟨index, 0, index⟩, ⟨index + 1, 0, index + 1⟩⟩)

/-- An operator that stands at one place. -/
def Grouping.operatorAt (text : String) (index : UInt64) : PendingOperator :=
  ⟨text, some ⟨⟨index, 0, index⟩, ⟨index + 1, 0, index + 1⟩⟩⟩

theorem groupOperators_covers_ordered :
    let nodes : List Node := [.identAt "a" 0, (operatorAt "+" 2).node, .identAt "b" 4]
    let span : Span := ⟨⟨0, 0, 0⟩, ⟨5, 0, 5⟩⟩
    let results : List Node := [.binop (.identAt "a" 0) "+" (.identAt "b" 4) (some span)]
    groupOperators nodes = .ok results ∧
      ∃ trees : List Grouping.Tree, results = trees.map Tree.toNode ∧
        ∀ tree ∈ trees, ∀ part, tree.Contains part → part.CoversParts := by
  intro nodes span results
  have grouped : groupOperators nodes = .ok results := rfl
  have located : ∀ inner, Encloses nodes inner → ∀ node ∈ inner, node.loc.isSome = true := by
    intro inner reached
    cases reached with
    | whole => decide
    | inside mem deeper => simp [nodes, Node.identAt, PendingOperator.node] at mem
  obtain ⟨trees, grouped', -, -, -, covers⟩ :=
    groupOperators_covers located grouped nodes (.whole nodes)
  have paired : IsPaired nodes := by
    refine ⟨?_, ?_, ?_⟩ <;> simp [nodes, Node.identAt, Node.isOperator]
  have inOrder : nodes.Pairwise Node.Precedes := by
    simp [nodes, Node.Precedes, Node.identAt, operatorAt, PendingOperator.node, Node.loc]
  exact ⟨grouped, trees, Except.ok.inj (grouped.symm.trans grouped'), covers paired inOrder⟩

/-- Where nodes have been moved, an operation may stop before it starts. -/
theorem groupOperators_moved :
    let nodes : List Node := [.identAt "b" 10, (operatorAt "+" 5).node, .identAt "a" 0]
    let tree : Grouping.Tree := .operation (.operand (.identAt "b" 10)) (operatorAt "+" 5)
      (.operand (.identAt "a" 0))
    (∀ node ∈ nodes, ∃ span, node.loc = some span ∧ span.start.index ≤ span.stop.index) ∧
      groupOperators nodes = .ok [tree.toNode] ∧ ¬tree.CoversParts ∧
      tree.toNode.loc = some ⟨⟨10, 0, 10⟩, ⟨1, 0, 1⟩⟩ := by
  intro nodes tree
  refine ⟨?_, rfl, ?_, rfl⟩
  · simp [nodes, Node.identAt, operatorAt, PendingOperator.node, Node.loc]
  · rintro ⟨whole, here, covers⟩
    obtain rfl := Option.some.inj here
    obtain ⟨span, there, starts, -⟩ := covers (.identAt "a" 0) (by simp [Tree.toNode])
    obtain rfl := Option.some.inj there
    exact absurd starts (by decide)

end TreeMacros
