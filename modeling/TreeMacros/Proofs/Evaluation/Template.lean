import TreeMacros.Proofs.Evaluation.Isolation
import TreeMacros.Proofs.Node.Parts

/-! # Filling templates

A template is filled in two steps that do not meet. First its holes are evaluated from left to
right, those inside other holes left out, and each value is taken as nodes before the next hole has
its turn. Then the nodes are put where the holes were, and nothing is evaluated any more. Only the
second step knows what is around a hole: it refuses several nodes as an operand.
-/

namespace TreeMacros

/-! ## Holes -/

/-- A hole of a template: what is evaluated, and where. -/
structure Hole where
  expression : Node
  loc : Option Span
  /-- Whether the hole itself is an operand of an operation. -/
  isOperand : Bool

/-- Several nodes cannot take the place of an operand. -/
def Hole.Takes (hole : Hole) (filling : Expansion) : Prop :=
  hole.isOperand = true → ∃ node, filling = .node node

/-- What a value is as nodes: a node is itself, a list with nothing but nodes is these nodes, and
    any other value is one node if it can be taken as one. -/
inductive Value.Becomes (store : Store) : Value → Expansion → Prop
  | node (node : Node) : Becomes store (.node node) (.node node)
  | nodes {id : ListId} {nodes : List Node}
      (items : store.items id = (nodes.map Value.node).toArray) :
      Becomes store (.list id) (.nodes nodes)
  | coerced {value : Value} {node : Node} (other : value.node? = none)
      (mixed : value.nodes? store = none) (coerces : value.toNode store = .ok node store) :
      Becomes store value (.node node)

/-- Evaluate a hole and take its value as nodes at once. -/
def Hole.fill (level : Level) (scope : Scope) (hole : Hole) : Eval Expansion := do
  let value ← level.eval hole.expression scope
  Eval.locating hole.loc value.toExpansion

mutual

/-- The outermost holes of a template from left to right. The template itself may be an operand. -/
def Node.holes (isOperand : Bool := false) : Node → List Hole
  | .leaf .. => []
  | .binop left _ right _ => left.holes true ++ right.holes true
  | .bracket kind children loc =>
    if (Node.bracket kind children loc).isHole then
      [⟨children.getD 1 (.ident "null"), loc, isOperand⟩]
    else holesAll children

def holesAll : List Node → List Hole
  | [] => []
  | node :: rest => node.holes ++ holesAll rest

end

mutual

/-- A template with what takes the place of each of its holes. Several nodes are spliced into the
    bracket around the hole; where there is none but an operation, there is no result. -/
def Node.withFillings? : Node → List Expansion → Option Expansion
  | .leaf kind text loc, _ => some (.node (.leaf kind text loc))
  | .binop left operator right loc, fillings =>
    let count := (left.holes true).length
    match left.withFillings? (fillings.take count), right.withFillings? (fillings.drop count) with
    | some (.node left), some (.node right) => some (.node (.binop left operator right loc))
    | _, _ => none
  | .bracket kind children loc, fillings =>
    if (Node.bracket kind children loc).isHole then fillings.head?
    else (withFillingsAll? children fillings).map fun nodes => .node (.bracket kind nodes loc)

def withFillingsAll? : List Node → List Expansion → Option (List Node)
  | [], _ => some []
  | node :: rest, fillings => do
    let count := node.holes.length
    let expansion ← node.withFillings? (fillings.take count)
    return expansion.toList ++ (← withFillingsAll? rest (fillings.drop count))

end

/-! ## Successful steps -/

namespace Eval

variable {α β : Type} {store after : Store}

theorem pure_eq_ok {a b : α} :
    (pure a : Eval α) store = .ok b after ↔ a = b ∧ store = after := by
  constructor
  · rintro ⟨⟩
    exact ⟨rfl, rfl⟩
  · rintro ⟨rfl, rfl⟩
    rfl

theorem bind_eq_ok {action : Eval α} {next : α → Eval β} {b : β} :
    (action >>= next) store = .ok b after ↔
      ∃ a middle, action store = .ok a middle ∧ next a middle = .ok b after := by
  simp only [Bind.bind, EStateM.bind]
  cases action store with
  | ok a middle =>
      constructor
      · intro goesOn
        exact ⟨a, middle, rfl, goesOn⟩
      · rintro ⟨_, _, ⟨⟩, goesOn⟩
        exact goesOn
  | error unwind middle => simp

theorem length_of_mapM {ι : Type} {each : ι → Eval α} {items : List ι} {results : List α}
    (mapped : items.mapM each store = .ok results after) : results.length = items.length := by
  induction items generalizing store after results with
  | nil =>
      obtain ⟨rfl, -⟩ := pure_eq_ok.mp mapped
      rfl
  | cons item rest ih =>
      rw [List.mapM_cons, bind_eq_ok] at mapped
      obtain ⟨first, middle, -, others⟩ := mapped
      obtain ⟨results, last, mapped, made⟩ := bind_eq_ok.mp others
      obtain ⟨rfl, -⟩ := pure_eq_ok.mp made
      rw [List.length_cons, List.length_cons, ih mapped]

theorem mapM_append_eq_ok {ι : Type} {each : ι → Eval α} {items items' : List ι}
    {results : List α} :
    (items ++ items').mapM each store = .ok results after ↔
      ∃ first middle second, items.mapM each store = .ok first middle ∧
        items'.mapM each middle = .ok second after ∧ results = first ++ second := by
  simp only [List.mapM_append, bind_eq_ok, pure_eq_ok]
  constructor
  · rintro ⟨first, middle, here, second, last, there, rfl, rfl⟩
    exact ⟨first, middle, second, here, there, rfl⟩
  · rintro ⟨first, middle, second, here, there, rfl⟩
    exact ⟨first, middle, here, second, after, there, rfl, rfl⟩

theorem locating_eq_ok {span : Option Span} {action : Eval α} {a : α} :
    locating span action store = .ok a after ↔ action store = .ok a after := by
  simp only [locating, tryCatch, tryCatchThe, MonadExceptOf.tryCatch, EStateM.tryCatch]
  cases action store with
  | ok b middle => rfl
  | error unwind middle =>
      constructor
      · intro thrown
        cases unwind <;> cases thrown
      · intro thrown
        cases thrown

end Eval

theorem mapM_map_eq_pure {m : Type → Type} [Monad m] [LawfulMonad m] {α β : Type} {f : β → m α}
    {g : α → β} (each : ∀ a, f (g a) = pure a) (items : List α) :
    (items.map g).mapM f = pure items := by
  have same : f ∘ g = fun a => pure (id a) := funext each
  rw [List.mapM_map, same, List.mapM_pure, List.map_id]

namespace Value

theorem mapM_node?_eq_some {values : List Value} {nodes : List Node} :
    values.mapM node? = some nodes ↔ values = nodes.map Value.node := by
  constructor
  · intro mapped
    induction values generalizing nodes with
    | nil =>
        cases mapped
        rfl
    | cons value rest ih =>
        rw [List.mapM_cons] at mapped
        obtain ⟨first, here, others⟩ := Option.bind_eq_some_iff.mp mapped
        obtain ⟨results, there, made⟩ := Option.bind_eq_some_iff.mp others
        cases made
        cases value with
        | node => rw [List.map_cons, ← ih there, Option.some.inj here]
        | _ => cases here
  · rintro rfl
    have each : ∀ node, node? (.node node) = pure node := fun _ => rfl
    exact mapM_map_eq_pure each nodes

theorem nodes?_list_eq_some {id : ListId} {store : Store} {nodes : List Node} :
    (list id).nodes? store = some nodes ↔ store.items id = (nodes.map Value.node).toArray := by
  rw [nodes?, mapM_node?_eq_some, ← Array.toList_inj]

variable {value : Value} {store : Store}

theorem toExpansion_listed {nodes : List Node} (listed : value.nodes? store = some nodes) :
    value.toExpansion store = .ok (.nodes nodes) store := by
  cases value with
  | list id =>
      have read : (get : Eval Store) store = .ok store store := rfl
      simp only [toExpansion, Bind.bind, EStateM.bind, read, listed]
      rfl
  | _ => cases listed

theorem toExpansion_coerced (other : value.node? = none) (mixed : value.nodes? store = none) :
    value.toExpansion store = (Expansion.node <$> value.toNode) store := by
  have read : (get : Eval Store) store = .ok store store := rfl
  rw [toExpansion, map_eq_pure_bind]
  cases value with
  | node => cases other
  | _ => simp only [Bind.bind, EStateM.bind, read, mixed]

/-- Taking a value as nodes does not change the store. -/
theorem toExpansion_eq_ok {after : Store} {expansion : Expansion} :
    value.toExpansion store = .ok expansion after ↔
      after = store ∧ value.Becomes store expansion := by
  constructor
  · intro becomes
    have unchanged : after = store := by
      rcases Eval.ReadsOnly.toExpansion value store with ⟨_, ended⟩ | ⟨_, ended⟩
      · cases ended.symm.trans becomes
        rfl
      · cases ended.symm.trans becomes
    subst unchanged
    refine ⟨rfl, ?_⟩
    cases single : value.node? with
    | some node =>
        cases value with
        | node =>
            cases becomes
            exact .node _
        | _ => cases single
    | none =>
        cases listed : value.nodes? after with
        | some nodes =>
            rw [toExpansion_listed listed] at becomes
            cases becomes
            cases value with
            | list id => exact .nodes (nodes?_list_eq_some.mp listed)
            | _ => cases listed
        | none =>
            rw [toExpansion_coerced single listed, map_eq_pure_bind, Eval.bind_eq_ok] at becomes
            obtain ⟨node, middle, coerces, made⟩ := becomes
            obtain ⟨rfl, rfl⟩ := Eval.pure_eq_ok.mp made
            exact .coerced single listed coerces
  · rintro ⟨rfl, becomes⟩
    cases becomes with
    | node => rfl
    | nodes items => exact toExpansion_listed (nodes?_list_eq_some.mpr items)
    | coerced other mixed coerces =>
        rw [toExpansion_coerced other mixed, map_eq_pure_bind, Eval.bind_eq_ok]
        exact ⟨_, _, coerces, rfl⟩

end Value

theorem Hole.fill_eq_ok {level : Level} {scope : Scope} {hole : Hole} {store after : Store}
    {expansion : Expansion} :
    hole.fill level scope store = .ok expansion after ↔
      ∃ value, level.eval hole.expression scope store = .ok value after ∧
        value.Becomes after expansion := by
  simp only [fill, Eval.bind_eq_ok, Eval.locating_eq_ok, Value.toExpansion_eq_ok]
  constructor
  · rintro ⟨value, middle, gives, rfl, becomes⟩
    exact ⟨value, gives, becomes⟩
  · rintro ⟨value, gives, becomes⟩
    exact ⟨value, after, gives, rfl, becomes⟩

/-! ## The two steps -/

theorem Node.withFillings?_binop (left : Node) (operator : String) (right : Node)
    (loc : Option Span) {first : List Expansion} (second : List Expansion)
    (enough : first.length = (left.holes true).length) (expansion : Expansion) :
    (binop left operator right loc).withFillings? (first ++ second) = some expansion ↔
      ∃ l r, left.withFillings? first = some (.node l) ∧
        right.withFillings? second = some (.node r) ∧
        expansion = .node (binop l operator r loc) := by
  rw [withFillings?, ← enough, List.take_left, List.drop_left]
  split
  · next l r here there => simp [here, there, eq_comm]
  · next others =>
      simp only [reduceCtorEq, false_iff]
      rintro ⟨l, r, here, there, -⟩
      exact others l r here there

theorem withFillingsAll?_cons (node : Node) (rest : List Node) {first : List Expansion}
    (second : List Expansion) (enough : first.length = node.holes.length) (nodes : List Node) :
    withFillingsAll? (node :: rest) (first ++ second) = some nodes ↔
      ∃ expansion others, node.withFillings? first = some expansion ∧
        withFillingsAll? rest second = some others ∧ nodes = expansion.toList ++ others := by
  rw [withFillingsAll?, ← enough, List.take_left, List.drop_left]
  simp only [Option.bind_eq_bind, Option.bind_eq_some_iff, Option.pure_def, Option.some.injEq,
    @eq_comm _ nodes]
  constructor
  · rintro ⟨expansion, here, others, there, made⟩
    exact ⟨expansion, others, here, there, made⟩
  · rintro ⟨expansion, others, here, there, made⟩
    exact ⟨expansion, here, others, there, made⟩

section

variable (level : Level) (scope : Scope)

theorem Node.filled_binop_eq_ok {left : Node} {operator : String} {right : Node}
    {loc : Option Span} {store after : Store} {expansion : Expansion} :
    (binop left operator right loc).filled level scope store = .ok expansion after ↔
      ∃ l middle r, left.filled level scope store = .ok (.node l) middle ∧
        right.filled level scope middle = .ok (.node r) after ∧
        expansion = .node (binop l operator r loc) := by
  rw [filled]
  simp only [Eval.bind_eq_ok]
  constructor
  · rintro ⟨first, middle, here, second, last, there, made⟩
    cases first with
    | nodes => cases made
    | node l =>
        cases second with
        | nodes => cases made
        | node r =>
            obtain ⟨rfl, rfl⟩ := Eval.pure_eq_ok.mp made
            exact ⟨l, middle, r, here, there, rfl⟩
  · rintro ⟨l, middle, r, here, there, rfl⟩
    exact ⟨_, middle, here, _, after, there, rfl⟩

mutual

/-- Filling a template is evaluating its holes and then putting the nodes in their places. -/
theorem Node.filled_eq_ok_iff (template : Node) (isOperand : Bool) {store after : Store}
    {expansion : Expansion} :
    template.filled level scope store = .ok expansion after ↔
      ∃ fillings, (template.holes isOperand).mapM (Hole.fill level scope) store =
          .ok fillings after ∧
        template.withFillings? fillings = some expansion := by
  cases template with
  | leaf kind text loc =>
      rw [Node.filled, Node.holes, List.mapM_nil]
      simp [Eval.pure_eq_ok, Node.withFillings?, and_comm]
  | binop left operator right loc =>
      have first := fun {store after expansion} =>
        @Node.filled_eq_ok_iff left true store after expansion
      have second := fun {store after expansion} =>
        @Node.filled_eq_ok_iff right true store after expansion
      rw [Node.holes]
      simp only [Node.filled_binop_eq_ok, first, second, Eval.mapM_append_eq_ok]
      constructor
      · rintro ⟨l, middle, r, ⟨fillings, here, makesLeft⟩, ⟨others, there, makesRight⟩, rfl⟩
        have enough := Eval.length_of_mapM here
        refine ⟨_, ⟨fillings, middle, others, here, there, rfl⟩, ?_⟩
        rw [Node.withFillings?_binop _ _ _ _ _ enough]
        exact ⟨l, r, makesLeft, makesRight, rfl⟩
      · rintro ⟨_, ⟨fillings, middle, others, here, there, rfl⟩, makes⟩
        have enough := Eval.length_of_mapM here
        rw [Node.withFillings?_binop _ _ _ _ _ enough] at makes
        obtain ⟨l, r, makesLeft, makesRight, rfl⟩ := makes
        exact ⟨l, middle, r, ⟨fillings, here, makesLeft⟩, ⟨others, there, makesRight⟩, rfl⟩
  | bracket kind children loc =>
      rw [Node.filled, Node.holes]
      by_cases hole : (Node.bracket kind children loc).isHole
      · simp only [if_pos hole, Node.withFillings?, List.mapM_cons, List.mapM_nil]
        simp only [Eval.bind_eq_ok, Eval.pure_eq_ok]
        constructor
        · intro fills
          exact ⟨_, ⟨expansion, after, fills, _, _, ⟨rfl, rfl⟩, rfl, rfl⟩, rfl⟩
        · rintro ⟨_, ⟨first, _, fills, _, _, ⟨rfl, rfl⟩, rfl, rfl⟩, ⟨⟩⟩
          exact fills
      · simp only [if_neg hole, Node.withFillings?, Eval.bind_eq_ok, Eval.pure_eq_ok,
          filledAll_eq_ok_iff children, Option.map_eq_some_iff]
        constructor
        · rintro ⟨nodes, _, ⟨fillings, fills, makes⟩, rfl, rfl⟩
          exact ⟨fillings, fills, nodes, makes, rfl⟩
        · rintro ⟨fillings, fills, nodes, makes, rfl⟩
          exact ⟨nodes, after, ⟨fillings, fills, makes⟩, rfl, rfl⟩
termination_by sizeOf template

theorem filledAll_eq_ok_iff (templates : List Node) {store after : Store} {nodes : List Node} :
    filledAll level scope templates store = .ok nodes after ↔
      ∃ fillings, (holesAll templates).mapM (Hole.fill level scope) store = .ok fillings after ∧
        withFillingsAll? templates fillings = some nodes := by
  cases templates with
  | nil =>
      rw [filledAll, holesAll, List.mapM_nil]
      simp [Eval.pure_eq_ok, withFillingsAll?, and_comm]
  | cons node rest =>
      have first := fun {store after expansion} =>
        @Node.filled_eq_ok_iff node false store after expansion
      have others := fun {store after nodes} => @filledAll_eq_ok_iff rest store after nodes
      rw [filledAll, holesAll]
      simp only [Eval.bind_eq_ok, Eval.pure_eq_ok, first, others, Eval.mapM_append_eq_ok]
      constructor
      · rintro ⟨expansion, middle, ⟨fillings, here, makes⟩, more, _, ⟨later, there, makesMore⟩,
          rfl, rfl⟩
        have enough := Eval.length_of_mapM here
        refine ⟨_, ⟨fillings, middle, later, here, there, rfl⟩, ?_⟩
        rw [withFillingsAll?_cons _ _ _ enough]
        exact ⟨expansion, more, makes, makesMore, rfl⟩
      · rintro ⟨_, ⟨fillings, middle, later, here, there, rfl⟩, makes⟩
        have enough := Eval.length_of_mapM here
        rw [withFillingsAll?_cons _ _ _ enough] at makes
        obtain ⟨expansion, more, makes, makesMore, rfl⟩ := makes
        exact ⟨expansion, middle, ⟨fillings, here, makes⟩, more, _, ⟨later, there, makesMore⟩,
          rfl, rfl⟩
termination_by sizeOf templates

end

end

/-! ## What fits into the holes -/

theorem exists_eq_append {α : Type} {items : List α} {count more : Nat}
    (length : items.length = count + more) :
    ∃ first second, items = first ++ second ∧ first.length = count ∧ second.length = more :=
  ⟨items.take count, items.drop count, (List.take_append_drop count items).symm,
    by simp [length], by simp [length]⟩

mutual

/-- There is a result if every hole can take what is given to it, and it is a single node if the
    template is an operand. -/
theorem Node.exists_withFillings?_iff (template : Node) (isOperand : Bool)
    {fillings : List Expansion} (enough : fillings.length = (template.holes isOperand).length) :
    (∃ expansion, template.withFillings? fillings = some expansion ∧
        (isOperand = true → ∃ node, expansion = .node node)) ↔
      ∀ pair ∈ (template.holes isOperand).zip fillings, pair.1.Takes pair.2 := by
  cases template with
  | leaf kind text loc => simp [Node.holes, Node.withFillings?]
  | binop left operator right loc =>
      rw [Node.holes, List.length_append] at enough
      obtain ⟨first, second, rfl, forLeft, forRight⟩ := exists_eq_append enough
      have inLeft := left.exists_withFillings?_iff true forLeft
      have inRight := right.exists_withFillings?_iff true forRight
      rw [Node.holes, List.zip_append forLeft.symm, List.forall_mem_append, ← inLeft, ← inRight]
      simp only [Node.withFillings?_binop left operator right loc second forLeft]
      constructor
      · rintro ⟨_, ⟨l, r, here, there, rfl⟩, -⟩
        exact ⟨⟨_, here, fun _ => ⟨l, rfl⟩⟩, ⟨_, there, fun _ => ⟨r, rfl⟩⟩⟩
      · rintro ⟨⟨_, here, single⟩, ⟨_, there, single'⟩⟩
        obtain ⟨l, rfl⟩ := single trivial
        obtain ⟨r, rfl⟩ := single' trivial
        exact ⟨_, ⟨l, r, here, there, rfl⟩, fun _ => ⟨_, rfl⟩⟩
  | bracket kind children loc =>
      rw [Node.holes] at enough ⊢
      by_cases hole : (Node.bracket kind children loc).isHole
      · rw [if_pos hole] at enough ⊢
        obtain ⟨filling, rfl⟩ := List.length_eq_one_iff.mp enough
        simp [Node.withFillings?, hole, Hole.Takes]
      · rw [if_neg hole] at enough ⊢
        rw [← isSome_withFillingsAll?_iff children enough, Option.isSome_iff_exists]
        simp only [Node.withFillings?, if_neg hole, Option.map_eq_some_iff]
        constructor
        · rintro ⟨_, ⟨nodes, makes, rfl⟩, -⟩
          exact ⟨nodes, makes⟩
        · rintro ⟨nodes, makes⟩
          exact ⟨_, ⟨nodes, makes, rfl⟩, fun _ => ⟨_, rfl⟩⟩
termination_by sizeOf template

theorem isSome_withFillingsAll?_iff (templates : List Node) {fillings : List Expansion}
    (enough : fillings.length = (holesAll templates).length) :
    (withFillingsAll? templates fillings).isSome ↔
      ∀ pair ∈ (holesAll templates).zip fillings, pair.1.Takes pair.2 := by
  cases templates with
  | nil => simp [holesAll, withFillingsAll?]
  | cons node rest =>
      rw [holesAll, List.length_append] at enough
      obtain ⟨first, second, rfl, here, there⟩ := exists_eq_append enough
      rw [holesAll, List.zip_append here.symm, List.forall_mem_append,
        ← node.exists_withFillings?_iff false here, ← isSome_withFillingsAll?_iff rest there]
      simp only [Option.isSome_iff_exists, withFillingsAll?_cons node rest second here]
      constructor
      · rintro ⟨_, expansion, others, makes, makesMore, rfl⟩
        exact ⟨⟨expansion, makes, nofun⟩, others, makesMore⟩
      · rintro ⟨⟨expansion, makes, -⟩, others, makesMore⟩
        exact ⟨_, expansion, others, makes, makesMore, rfl⟩
termination_by sizeOf templates

end

mutual

/-- A template without holes stays as it is. -/
theorem Node.withFillings?_of_no_holes (template : Node) (isOperand : Bool)
    (none : template.holes isOperand = []) : template.withFillings? [] = some (.node template) := by
  cases template with
  | leaf kind text loc => rw [Node.withFillings?]
  | binop left operator right loc =>
      rw [Node.holes, List.append_eq_nil_iff] at none
      have here := left.withFillings?_of_no_holes true none.1
      have there := right.withFillings?_of_no_holes true none.2
      simp [Node.withFillings?, here, there]
  | bracket kind children loc =>
      rw [Node.holes] at none
      by_cases hole : (Node.bracket kind children loc).isHole
      · simp [hole] at none
      · rw [if_neg hole] at none
        simp [Node.withFillings?, hole, withFillingsAll?_of_no_holes children none]
termination_by sizeOf template

theorem withFillingsAll?_of_no_holes (templates : List Node) (none : holesAll templates = []) :
    withFillingsAll? templates [] = some templates := by
  cases templates with
  | nil => rw [withFillingsAll?]
  | cons node rest =>
      rw [holesAll, List.append_eq_nil_iff] at none
      have here := node.withFillings?_of_no_holes false none.1
      have there := withFillingsAll?_of_no_holes rest none.2
      simp [withFillingsAll?, here, there, Expansion.toList]
termination_by sizeOf templates

end

mutual

/-- The holes of a template are forms in it. -/
theorem Node.holes_eq_nil (template : Node) (isOperand : Bool)
    (lacks : ∀ form, template.Contains form → form.isHole = false) :
    template.holes isOperand = [] := by
  cases template with
  | leaf kind text loc => rw [Node.holes]
  | binop left operator right loc =>
      have here := left.holes_eq_nil true fun form contains => lacks form (by simp [contains])
      have there := right.holes_eq_nil true fun form contains => lacks form (by simp [contains])
      rw [Node.holes, here, there]
      rfl
  | bracket kind children loc =>
      have hole := lacks _ (.self _)
      rw [Node.holes, hole, if_neg Bool.false_ne_true]
      apply holesAll_eq_nil
      intro child mem form contains
      exact lacks form (.inside mem contains)
termination_by sizeOf template

theorem holesAll_eq_nil (templates : List Node)
    (lacks : ∀ template ∈ templates, ∀ form, template.Contains form → form.isHole = false) :
    holesAll templates = [] := by
  cases templates with
  | nil => rw [holesAll]
  | cons node rest =>
      obtain ⟨first, others⟩ := List.forall_mem_cons.mp lacks
      rw [holesAll, node.holes_eq_nil false first, holesAll_eq_nil rest others]
      rfl
termination_by sizeOf templates

end

theorem Node.filled_of_no_holes (level : Level) (scope : Scope) {template : Node}
    (none : template.holes = []) (store : Store) :
    template.filled level scope store = .ok (.node template) store := by
  rw [template.filled_eq_ok_iff level scope false, none]
  exact ⟨[], rfl, template.withFillings?_of_no_holes false none⟩

/-- Filling a template is evaluating its holes, each up to its nodes, and then putting the nodes in
    their places. A value is taken as nodes in the store that its evaluation left, and that store is
    what the next hole finds. The second step fails only where several nodes would be an operand. A
    template that is a hole becomes what it gives, and one without holes stays as it is. -/
theorem filled_in_two_steps (level : Level) (scope : Scope) (template : Node) :
    (∀ store expansion after, template.filled level scope store = .ok expansion after ↔
      ∃ fillings, template.holes.mapM (Hole.fill level scope) store = .ok fillings after ∧
        template.withFillings? fillings = some expansion) ∧
    (∀ hole : Hole, ∀ store filling after, hole.fill level scope store = .ok filling after ↔
      ∃ value, level.eval hole.expression scope store = .ok value after ∧
        value.Becomes after filling) ∧
    (∀ store, (∃ expansion after, template.filled level scope store = .ok expansion after) ↔
      ∃ fillings after, template.holes.mapM (Hole.fill level scope) store = .ok fillings after ∧
        ∀ pair ∈ template.holes.zip fillings, pair.1.Takes pair.2) ∧
    (template.isHole = true → ∀ filling, template.withFillings? [filling] = some filling) ∧
    (template.holes = [] → ∀ store,
      template.filled level scope store = .ok (.node template) store) := by
  have steps : ∀ store expansion after, template.filled level scope store = .ok expansion after ↔
      ∃ fillings, template.holes.mapM (Hole.fill level scope) store = .ok fillings after ∧
        template.withFillings? fillings = some expansion :=
    fun _ _ _ => template.filled_eq_ok_iff level scope false
  refine ⟨steps, fun _ _ _ _ => Hole.fill_eq_ok, ?_, ?_, ?_⟩
  · intro store
    simp only [steps]
    constructor
    · rintro ⟨expansion, after, fillings, fills, makes⟩
      have enough := Eval.length_of_mapM fills
      exact ⟨fillings, after, fills,
        (template.exists_withFillings?_iff false enough).mp ⟨expansion, makes, nofun⟩⟩
    · rintro ⟨fillings, after, fills, takes⟩
      have enough := Eval.length_of_mapM fills
      obtain ⟨expansion, makes, -⟩ := (template.exists_withFillings?_iff false enough).mpr takes
      exact ⟨expansion, after, fillings, fills, makes⟩
  · intro hole filling
    cases template with
    | leaf | binop => simp [Node.isHole, Node.isHeaded] at hole
    | bracket kind children loc => simp [Node.withFillings?, hole]
  · intro none store
    exact Node.filled_of_no_holes level scope none store

/-- The second hole takes the last node out of the list that the first one gave. What the first one
    gave is in its place already. -/
theorem filled_in_two_steps_popped :
    let level := ({} : Machine).level 3
    let store : Store :=
      { lists := #[#[.node (.ident "a"), .node (.ident "b")]], frames := #[[("xs", .list 0)]] }
    let whole : Node := .curly [.ident "$", .ident "xs"]
    let last : Node := .curly [.ident "unquote",
      .curly [.binary (.ident "xs") "." (.ident "pop")]]
    (Node.square [whole, .string "c", last]).filled level ⟨0, []⟩ store =
        .ok (.node (.square [.ident "a", .ident "b", .string "c", .ident "b"]))
          { store with lists := #[#[.node (.ident "a")]], nextIdentity := 1 } ∧
      whole.withFillings? [.nodes []] = some (.nodes []) ∧
      (Node.string "c").filled level ⟨0, []⟩ store = .ok (.node (.string "c")) store := by
  intro level store whole last
  have popped := filled_in_two_steps level ⟨0, []⟩ (.square [whole, .string "c", last])
  have hole := filled_in_two_steps level ⟨0, []⟩ whole
  have literal := filled_in_two_steps level ⟨0, []⟩ (.string "c")
  refine ⟨?_, ?_, ?_⟩
  · rw [popped.1]
    exact ⟨[.nodes [.ident "a", .ident "b"], .node (.ident "b")], by rfl, by rfl⟩
  · exact hole.2.2.2.1 (by decide) _
  · exact literal.2.2.2.2 (by rfl) store

end TreeMacros
