import TreeMacros.Node

/-! # The parts of nodes

The parts of a node are its operands or its children. What a node contains is the node itself and
what its parts contain.
-/

namespace TreeMacros.Node

/-- The operands of a binary operation, or the children of a bracket. -/
def parts : Node → List Node
  | leaf .. => []
  | binop left _ right _ => [left, right]
  | bracket _ children _ => children

/-- The second node is the first one or stands in it, at any depth. -/
inductive Contains : Node → Node → Prop
  | self (node : Node) : Contains node node
  | inside {whole part inner : Node} (direct : part ∈ whole.parts)
      (deeper : Contains part inner) : Contains whole inner

variable {whole part inner : Node}

theorem sizeOf_part (direct : part ∈ whole.parts) : sizeOf part < sizeOf whole := by
  cases whole with
  | leaf => cases direct
  | binop left operator right loc =>
      simp only [parts, List.mem_cons, List.not_mem_nil, or_false] at direct
      obtain rfl | rfl := direct
      · simp only [binop.sizeOf_spec]
        omega
      · simp only [binop.sizeOf_spec]
        omega
  | bracket kind children loc =>
      have smaller := List.sizeOf_lt_of_mem direct
      simp only [parts] at smaller
      simp only [bracket.sizeOf_spec]
      omega

/-- What holds of a node if it holds of its parts holds of every node. -/
theorem parts_induction {motive : Node → Prop}
    (step : ∀ whole, (∀ part ∈ whole.parts, motive part) → motive whole) (node : Node) :
    motive node :=
  step node fun part _ => parts_induction step part
termination_by sizeOf node
decreasing_by exact sizeOf_part ‹_›

theorem Contains.of_part (direct : part ∈ whole.parts) : whole.Contains part :=
  .inside direct (.self part)

theorem contains_iff :
    whole.Contains inner ↔ inner = whole ∨ ∃ part ∈ whole.parts, part.Contains inner := by
  constructor
  · intro contains
    cases contains with
    | self => exact .inl rfl
    | inside direct deeper => exact .inr ⟨_, direct, deeper⟩
  · rintro (rfl | ⟨part, direct, deeper⟩)
    · exact .self _
    · exact .inside direct deeper

/-- What holds of a node if it holds of all that stands inside it holds of every node. -/
theorem contains_induction {motive : Node → Prop}
    (step : ∀ whole, (∀ part ∈ whole.parts, ∀ inner, part.Contains inner → motive inner) →
      motive whole) (node : Node) : motive node := by
  refine parts_induction (motive := fun node => ∀ inner, node.Contains inner → motive inner) ?_
    node node (.self node)
  intro whole inside inner contains
  rcases contains_iff.mp contains with rfl | ⟨part, direct, deeper⟩
  · exact step inner inside
  · exact inside part direct inner deeper

@[simp] theorem contains_leaf {kind : LeafKind} {text : String} {loc : Option Span} :
    (leaf kind text loc).Contains inner ↔ inner = leaf kind text loc := by
  rw [contains_iff]
  simp [parts]

@[simp] theorem contains_binop {left right : Node} {operator : String} {loc : Option Span} :
    (binop left operator right loc).Contains inner ↔
      inner = binop left operator right loc ∨ left.Contains inner ∨ right.Contains inner := by
  rw [contains_iff]
  simp [parts]

@[simp] theorem contains_bracket {kind : Bracket} {children : List Node} {loc : Option Span} :
    (bracket kind children loc).Contains inner ↔
      inner = bracket kind children loc ∨ ∃ child ∈ children, child.Contains inner :=
  contains_iff

end TreeMacros.Node
