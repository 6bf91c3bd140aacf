import TreeMacros.Proofs.Expansion.Exhaustion

/-! # What expansion does not touch

Expansion takes every bracket and every binary operation apart and builds it again. Where no form
is a call and none is a definition, what it builds is what it took apart, with all locations. The
walk then comes to nodes of the program only, and at none of them is a macro run or registered.
-/

namespace TreeMacros

/-- A curly form with these children is not to be expanded: its first child names no registered
    macro, and if the form starts with `def macro`, it has fewer than five children. -/
structure Node.IsInert (registry : Registry) (children : List Node) : Prop where
  unregistered : ∀ name, children.head?.bind ident? = some name → registry.get? name = none
  short : (children.map ident?).take 2 = [some "def", some "macro"] → children.length < 5

namespace Node

variable {registry : Registry} {children : List Node} {loc : Option Span}

theorem IsInert.isCall_eq (inert : IsInert registry children) :
    (bracket .curly children loc).isCall registry = false := by
  rw [isCall_bracket]
  cases head : children.head?.bind ident? with
  | none => rfl
  | some name => simp [Registry.contains, inert.unregistered name head]

theorem IsInert.startsDefinition_eq (inert : IsInert registry children) :
    (bracket .curly children loc).startsDefinition = false := by
  rw [startsDefinition_bracket]
  by_cases starts : (children.map ident?).take 2 = [some "def", some "macro"]
  · simp [Nat.not_le_of_lt (inert.short starts)]
  · simp [starts]

/-- A node is expanded if none of the curly forms in it is to be expanded. -/
theorem isExpanded_of_inert {node : Node}
    (inert : ∀ children loc, node.Contains (.bracket .curly children loc) →
      IsInert registry children) : node.IsExpanded registry := by
  intro form contains
  cases form with
  | leaf | binop => exact ⟨rfl, rfl⟩
  | bracket kind children loc =>
      cases kind with
      | round | square | sequence => exact ⟨rfl, rfl⟩
      | curly =>
          have untouched := inert children loc contains
          exact ⟨untouched.isCall_eq, untouched.startsDefinition_eq⟩

end Node

namespace Expander

variable {expander : Expander} {registry : Registry}

/-- A walk that starts with nothing to expand meets nothing to expand, and registers nothing on
    its way. -/
theorem Visits.expanded {depth : Nat} {nodes : List Node} {visit : Visit}
    (visits : expander.Visits depth nodes registry visit)
    (expanded : ∀ node ∈ nodes, node.IsExpanded registry) :
    visit.registry = registry ∧ visit.node.IsExpanded registry := by
  induction visits with
  | here depth node rest registry => exact ⟨rfl, expanded node (List.mem_cons_self ..)⟩
  | later walked _ ih =>
      obtain ⟨first, others⟩ := List.forall_mem_cons.mp expanded
      rw [walkNode_expanded first] at walked
      cases walked
      exact ih others
  | left _ ih =>
      have whole := expanded _ (List.mem_cons_self ..)
      exact ih (List.forall_mem_singleton.mpr (whole.part (by simp [Node.parts])))
  | right walked _ _ ih =>
      have whole := expanded _ (List.mem_cons_self ..)
      rw [walkNode_expanded (whole.part (by simp [Node.parts]))] at walked
      cases walked
      exact ih (List.forall_mem_singleton.mpr (whole.part (by simp [Node.parts])))
  | child _ _ _ ih =>
      have whole := expanded _ (List.mem_cons_self ..)
      exact ih fun part direct => whole.part direct
  | produced _ called _ _ =>
      -- what has been produced comes from a call, and there is none
      have noCall := (expanded _ (List.mem_cons_self ..) _ (.self _)).1
      rw [isCall_of_expands called] at noCall
      cases noCall

/-- If no curly form of a program is to be expanded, expansion gives the program back and leaves
    the registry as it was, whatever the expander, its depth and its pacing. No node that the walk
    comes to is a definition or a call; so nothing is registered on the way, no macro of the host
    is run, and the executor is never asked. -/
theorem expandProgram_unchanged (expander : Expander) {program : List Node} {registry : Registry}
    (inert : ∀ node ∈ program, ∀ children loc, node.Contains (.bracket .curly children loc) →
      Node.IsInert registry children) :
    expander.expandProgram program registry = .ok program registry ∧
      ∀ visit, expander.Reaches program registry visit → visit.registry = registry ∧
        visit.node.definition? = .ok none ∧ visit.node.call? visit.registry = none := by
  have expanded : ∀ node ∈ program, node.IsExpanded registry :=
    fun node mem => Node.isExpanded_of_inert (inert node mem)
  constructor
  · exact expandProgram_expanded expanded
  · intro visit reached
    obtain ⟨same, untouched⟩ := Visits.expanded reached expanded
    obtain ⟨noCall, plain⟩ := untouched _ (.self _)
    rw [same]
    exact ⟨rfl, Node.definition?_eq_none.mpr plain, Node.isCall_eq_false.mp noCall⟩

/-- A definition without a body, and a name in square brackets: neither is expanded, though `zero`
    is registered and no expansion may be nested. -/
theorem expandProgram_unchanged_short :
    let expander : Expander := { ones .concurrent with maxDepth := 0 }
    let registry := constants [("zero", [.number "0"])]
    let loc : Option Span := some ⟨⟨1, 0, 1⟩, ⟨9, 0, 9⟩⟩
    let program : List Node :=
      [.bracket .curly [.ident "def", .ident "macro", .ident "zero", .square []] loc,
        .binop (.square [.ident "zero"]) "+" (.curly [.ident "other", .ident "zero"]) loc]
    (registry.get? "zero").isSome = true ∧
      expander.expandProgram program registry = .ok program registry := by
  intro expander registry loc program
  refine ⟨rfl, (expandProgram_unchanged expander ?_).1⟩
  intro node mem children loc contains
  simp only [program, List.mem_cons, List.not_mem_nil, or_false] at mem
  obtain rfl | rfl := mem
  · simp [Node.square, Node.ident] at contains
    obtain ⟨rfl, -⟩ := contains
    exact ⟨by rintro _ ⟨⟩; rfl, fun _ => by decide⟩
  · simp [Node.square, Node.curly, Node.ident] at contains
    obtain ⟨rfl, -⟩ := contains
    exact ⟨by rintro _ ⟨⟩; rfl, by simp⟩

end Expander

end TreeMacros
