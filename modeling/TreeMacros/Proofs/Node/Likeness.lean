import Mathlib.Data.List.Forall2
import TreeMacros.Node.Printer
import TreeMacros.Value

/-! # Nodes that are alike

Two nodes are alike if they are the same part by part, apart from places that count as the same.
With all places counting as the same this is how nodes are compared; with each place counting as
itself only, it is equality. Code may be kept free of forms with a given head.
-/

namespace TreeMacros.Node

mutual

/-- Whether a node is free of forms with the given head, at any depth. -/
def lacks (head : String) : Node → Bool
  | leaf .. => true
  | binop left _ right _ => left.lacks head && right.lacks head
  | bracket kind children loc =>
    !(bracket kind children loc).isHeaded head && lacksAll head children

/-- Whether all nodes of a list are free of forms with the given head. -/
def lacksAll (head : String) : List Node → Bool
  | [] => true
  | node :: rest => node.lacks head && lacksAll head rest

end

/-- Two nodes that are the same but for places that count as the same. There are forms headed by
    `while` only if there may be `loops`. -/
inductive Like (place : Option Span → Option Span → Prop) (loops : Prop) : Node → Node → Prop
  | leaf (kind : LeafKind) (text : String) {loc loc' : Option Span} (places : place loc loc') :
      Like place loops (.leaf kind text loc) (.leaf kind text loc')
  | binop {left left' : Node} (lefts : Like place loops left left') (operator : String)
      {right right' : Node} (rights : Like place loops right right') {loc loc' : Option Span}
      (places : place loc loc') :
      Like place loops (.binop left operator right loc) (.binop left' operator right' loc')
  | bracket (kind : Bracket) {children children' : List Node}
      (all : List.Forall₂ (Like place loops) children children') {loc loc' : Option Span}
      (places : place loc loc')
      (turns : (Node.bracket kind children loc).isHeaded "while" = true → loops) :
      Like place loops (.bracket kind children loc) (.bracket kind children' loc')

variable {place : Option Span → Option Span → Prop} {loops : Prop} {node node' : Node}

/-! ## Nodes that are like themselves -/

mutual

theorem Like.refl (places : ∀ loc, place loc loc) (node : Node)
    (free : ¬loops → node.lacks "while" = true) : Like place loops node node :=
  match node with
  | .leaf kind text loc => .leaf kind text (places loc)
  | .binop left operator right loc => by
      simp only [lacks, Bool.and_eq_true] at free
      exact .binop (Like.refl places left fun no => (free no).1) operator
        (Like.refl places right fun no => (free no).2) (places loc)
  | .bracket kind children loc => by
      simp only [lacks, Bool.and_eq_true, Bool.not_eq_true'] at free
      refine .bracket kind (Like.reflAll places children fun no => (free no).2) (places loc)
        fun turns => ?_
      by_contra no
      rw [(free no).1] at turns
      cases turns
termination_by sizeOf node

theorem Like.reflAll (places : ∀ loc, place loc loc) (nodes : List Node)
    (free : ¬loops → lacksAll "while" nodes = true) :
    List.Forall₂ (Like place loops) nodes nodes :=
  match nodes with
  | [] => .nil
  | node :: rest => by
      simp only [lacksAll, Bool.and_eq_true] at free
      exact .cons (Like.refl places node fun no => (free no).1)
        (Like.reflAll places rest fun no => (free no).2)
termination_by sizeOf nodes

end

/-! ## What like nodes have in common -/

theorem Like.loc (like : Like place loops node node') : place node.loc node'.loc := by
  cases like <;> assumption

theorem Like.ident?_eq (like : Like place loops node node') : node.ident? = node'.ident? := by
  cases like with
  | leaf kind => cases kind <;> rfl
  | _ => rfl

theorem Like.ofNode_eq (like : Like place loops node node') :
    NodeMaker.ofNode node = NodeMaker.ofNode node' := by
  cases like <;> rfl

theorem Like.isHeaded_eq (like : Like place loops node node') (head : String) :
    node.isHeaded head = node'.isHeaded head := by
  cases like with
  | bracket kind all =>
      cases kind with
      | curly =>
          cases all with
          | nil => rfl
          | cons first rest => simp only [isHeaded, isIdent, first.ident?_eq]
      | _ => rfl
  | _ => rfl

mutual

theorem Like.mono {loops' : Prop} (more : loops → loops') {node node' : Node} :
    Like place loops node node' → Like place loops' node node'
  | .leaf kind text places => .leaf kind text places
  | .binop lefts operator rights places =>
      .binop (lefts.mono more) operator (rights.mono more) places
  | .bracket kind all places turns =>
      .bracket kind (Like.monoAll more all) places fun headed => more (turns headed)

theorem Like.monoAll {loops' : Prop} (more : loops → loops') {nodes nodes' : List Node} :
    List.Forall₂ (Like place loops) nodes nodes' → List.Forall₂ (Like place loops') nodes nodes'
  | .nil => .nil
  | .cons first rest => .cons (first.mono more) (Like.monoAll more rest)

end

mutual

theorem Like.pretty_eq {node node' : Node} :
    Like place loops node node' → node.pretty = node'.pretty
  | .leaf kind text places => by cases kind <;> rfl
  | .binop lefts operator rights places => by
      rw [pretty, pretty, lefts.pretty_eq, rights.pretty_eq]
  | .bracket kind all places turns => by rw [pretty, pretty, Like.prettyAll_eq all]

theorem Like.prettyAll_eq {nodes nodes' : List Node} :
    List.Forall₂ (Like place loops) nodes nodes' → prettyAll nodes = prettyAll nodes'
  | .nil => rfl
  | .cons first .nil => first.pretty_eq
  | .cons first (.cons second rest) => by
      rw [prettyAll, prettyAll, first.pretty_eq, Like.prettyAll_eq (.cons second rest)]

end

mutual

/-- Comparing nodes does not tell like nodes apart. -/
theorem Like.same_eq {node node' other other' : Node} :
    Like place loops node node' → Like place loops other other' →
      node.same other = node'.same other'
  | .leaf .., .leaf .. | .leaf .., .binop .. | .leaf .., .bracket .. => by simp only [same]
  | .binop .., .leaf .. | .binop .., .bracket .. => by simp only [same]
  | .bracket .., .leaf .. | .bracket .., .binop .. => by simp only [same]
  | .binop lefts _ rights _, .binop lefts' _ rights' _ => by
      rw [same, same, lefts.same_eq lefts', rights.same_eq rights']
  | .bracket _ all _ _, .bracket _ all' _ _ => by rw [same, same, Like.sameAll_eq all all']

theorem Like.sameAll_eq {nodes nodes' others others' : List Node} :
    List.Forall₂ (Like place loops) nodes nodes' →
    List.Forall₂ (Like place loops) others others' →
      sameAll nodes others = sameAll nodes' others'
  | .nil, .nil | .nil, .cons .. | .cons .., .nil => by simp only [sameAll]
  | .cons first rest, .cons first' rest' => by
      rw [sameAll, sameAll, first.same_eq first', Like.sameAll_eq rest rest']

end

/-! ## The two extremes -/

mutual

theorem Like.eq {node node' : Node} : Like Eq loops node node' → node = node'
  | .leaf kind text places => by rw [places]
  | .binop lefts operator rights places => by rw [lefts.eq, rights.eq, places]
  | .bracket kind all places turns => by rw [Like.eqAll all, places]

theorem Like.eqAll {nodes nodes' : List Node} :
    List.Forall₂ (Like Eq loops) nodes nodes' → nodes = nodes'
  | .nil => rfl
  | .cons first rest => by rw [first.eq, Like.eqAll rest]

end

mutual

theorem Like.same {node node' : Node} : Like place loops node node' → node.same node' = true
  | .leaf kind text places => by simp [Node.same]
  | .binop lefts operator rights places => by simp [Node.same, lefts.same, rights.same]
  | .bracket kind all places turns => by simp [Node.same, Like.sameAll all]

theorem Like.sameAll {nodes nodes' : List Node} :
    List.Forall₂ (Like place loops) nodes nodes' → Node.sameAll nodes nodes' = true
  | .nil => by rw [Node.sameAll]
  | .cons first rest => by simp [Node.sameAll, first.same, Like.sameAll rest]

end

mutual

theorem like_of_same {node node' : Node} (equal : node.same node' = true) :
    Like (fun _ _ => True) True node node' :=
  match node, node', equal with
  | .leaf .., .leaf .., equal => by
      simp only [Node.same, Bool.and_eq_true, beq_iff_eq] at equal
      obtain ⟨rfl, rfl⟩ := equal
      exact .leaf _ _ trivial
  | .binop .., .binop .., equal => by
      simp only [Node.same, Bool.and_eq_true, beq_iff_eq] at equal
      obtain ⟨⟨rfl, lefts⟩, rights⟩ := equal
      exact .binop (like_of_same lefts) _ (like_of_same rights) trivial
  | .bracket .., .bracket .., equal => by
      simp only [Node.same, Bool.and_eq_true, beq_iff_eq] at equal
      obtain ⟨rfl, all⟩ := equal
      exact .bracket _ (like_of_sameAll all) trivial fun _ => trivial
  | .leaf .., .binop .., equal | .leaf .., .bracket .., equal => by simp [Node.same] at equal
  | .binop .., .leaf .., equal | .binop .., .bracket .., equal => by simp [Node.same] at equal
  | .bracket .., .leaf .., equal | .bracket .., .binop .., equal => by simp [Node.same] at equal

theorem like_of_sameAll {nodes nodes' : List Node} (equal : Node.sameAll nodes nodes' = true) :
    List.Forall₂ (Like (fun _ _ => True) True) nodes nodes' :=
  match nodes, nodes', equal with
  | [], [], _ => .nil
  | _ :: _, _ :: _, equal => by
      simp only [Node.sameAll, Bool.and_eq_true] at equal
      exact .cons (like_of_same equal.1) (like_of_sameAll equal.2)
  | [], _ :: _, equal | _ :: _, [], equal => by simp [Node.sameAll] at equal

end

/-- Nodes are the same for comparison if and only if they are alike, wherever they stand. -/
theorem like_iff_same : Like (fun _ _ => True) True node node' ↔ node.same node' = true :=
  ⟨Like.same, like_of_same⟩

theorem like_iff_sameAll {nodes nodes' : List Node} :
    List.Forall₂ (Like (fun _ _ => True) True) nodes nodes' ↔ sameAll nodes nodes' = true :=
  ⟨Like.sameAll, like_of_sameAll⟩

end TreeMacros.Node
