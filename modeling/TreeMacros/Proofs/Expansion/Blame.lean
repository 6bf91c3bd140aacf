import Mathlib
import TreeMacros.Proofs.Expansion.Exhaustion

/-! # Where failures of expansion are blamed

Expansion fails at a node that the walk has come to. The fault is blamed on this node, or on one of
its parameters if it is a definition, unless the fault has a place of its own. Only that node is
asked for its place: if a macro made it and gave it none, then the fault stays without one, and the
call in the program that led there is not blamed in its stead.
-/

namespace TreeMacros

namespace Node

/-- The node and all nodes in it are located. -/
def IsLocated (node : Node) : Prop :=
  ∀ form, node.Contains form → form.loc.isSome = true

@[simp] theorem isLocated_leaf {kind : LeafKind} {text : String} {loc : Option Span} :
    (leaf kind text loc).IsLocated ↔ loc.isSome = true := by
  simp [IsLocated, Node.loc]

@[simp] theorem isLocated_bracket {kind : Bracket} {children : List Node} {loc : Option Span} :
    (bracket kind children loc).IsLocated ↔
      loc.isSome = true ∧ ∀ child ∈ children, child.IsLocated := by
  constructor
  · intro located
    exact ⟨located _ (.self _), fun child mem form contains =>
      located form (.inside mem contains)⟩
  · rintro ⟨here, inside⟩ form contains
    obtain rfl | ⟨child, mem, deeper⟩ := contains_bracket.mp contains
    · exact here
    · exact inside child mem form deeper

end Node

/-! ## Definitions -/

theorem mapM_eq_error {α β ε : Type} {f : α → Except ε β} {items : List α} {failure : ε}
    (fails : items.mapM f = .error failure) : ∃ item ∈ items, f item = .error failure := by
  induction items with
  | nil => cases fails
  | cons item rest ih =>
      rw [List.mapM_cons] at fails
      cases first : f item with
      | error other =>
          rw [first] at fails
          cases fails
          exact ⟨item, List.mem_cons_self .., first⟩
      | ok result =>
          rw [first] at fails
          cases others : rest.mapM f with
          | error other =>
              rw [others] at fails
              cases fails
              obtain ⟨culprit, mem, same⟩ := ih others
              exact ⟨culprit, List.mem_cons_of_mem _ mem, same⟩
          | ok results =>
              rw [others] at fails
              cases fails

theorem definedParameters_error {params : List Node} {fault : Fault}
    (malformed : definedParameters params = .error fault) :
    ∃ param ∈ params, fault = { cause := .definitionParameterNames, span := param.loc } := by
  obtain ⟨param, mem, nameless⟩ := mapM_eq_error malformed
  refine ⟨param, mem, ?_⟩
  cases named : param.ident? with
  | none =>
      rw [named] at nameless
      cases nameless
      rfl
  | some name =>
      rw [named] at nameless
      cases nameless

/-- What is wrong with a definition is blamed on it or on one of its parameters. -/
theorem Node.definition?_error {node : Node} {fault : Fault}
    (malformed : node.definition? = .error fault) :
    ∃ cause blamed, node.Contains blamed ∧ fault = { cause, span := blamed.loc } := by
  unfold definition? at malformed
  split at malformed
  · split at malformed
    · split at malformed
      · next params place _ =>
          cases named : definedParameters params with
          | ok names =>
              rw [named] at malformed
              cases malformed
          | error other =>
              rw [named] at malformed
              cases malformed
              obtain ⟨param, mem, rfl⟩ := definedParameters_error named
              have inner : (bracket .square params place).Contains param := .of_part mem
              exact ⟨_, param, .inside (by simp [parts]) inner, rfl⟩
      · cases malformed
        exact ⟨_, _, .self _, rfl⟩
    · cases malformed
  · cases malformed

namespace Expander

/-! ## Where a walk fails -/

/-- A visited node at which expansion fails, with the fault before it is located and the node that
    it is blamed on. -/
inductive Visit.Raises (expander : Expander) : Visit → Fault → Node → Prop
  /-- A malformed definition. -/
  | definition {node blamed : Node} {cause : Cause} (depth : Nat) (registry : Registry)
      (malformed : node.definition? = .error { cause, span := blamed.loc })
      (inside : node.Contains blamed) :
      Raises expander ⟨node, depth, registry⟩ { cause } blamed
  /-- A call whose macro fails. -/
  | call {node : Node} {registry : Registry} {name : String} {entry : Entry}
      {arguments : List Node} {own : Fault} (depth : Nat)
      (plain : node.definition? = .ok none)
      (called : node.call? registry = some (name, entry, arguments))
      (fails : expander.runEntry registry name arguments entry = .error (.fault own)) :
      Raises expander ⟨node, depth, registry⟩ own node
  /-- A call that is nested too deep. -/
  | deep {node : Node} {registry : Registry} {nodes : List Node}
      (plain : node.definition? = .ok none)
      (called : expander.expandCall? registry node = .ok (some nodes)) :
      Raises expander ⟨node, 0, registry⟩
        { cause := .expansionDepthExceeded expander.maxDepth } node
  /-- A left operand that does not give a single node. -/
  | left {depth : Nat} {left right : Node} {registry middle : Registry} {lefts : List Node}
      (operator : String) (loc : Option Span)
      (walked : expander.walkNode depth left registry = .ok lefts middle)
      (uncounted : lefts.length ≠ 1)
      (meanwhile : expander.pacing = .concurrent →
        ∃ rights last, expander.walkNode depth right middle = .ok rights last) :
      Raises expander ⟨.binop left operator right loc, depth, registry⟩
        { cause := .operandCount lefts.length } (.binop left operator right loc)
  /-- A right operand that does not give a single node. -/
  | right {depth : Nat} {left right : Node} {registry middle last : Registry}
      {lefts rights : List Node} (operator : String) (loc : Option Span)
      (walked : expander.walkNode depth left registry = .ok lefts middle)
      (counted : lefts.length = 1)
      (walkedRight : expander.walkNode depth right middle = .ok rights last)
      (uncounted : rights.length ≠ 1) :
      Raises expander ⟨.binop left operator right loc, depth, registry⟩
        { cause := .operandCount rights.length } (.binop left operator right loc)

theorem Visit.Raises.inside {expander : Expander} {visit : Visit} {own : Fault} {blamed : Node}
    (raises : visit.Raises expander own blamed) : visit.node.Contains blamed := by
  cases raises with
  | definition _ _ _ inside => exact inside
  | call | deep | left | right => exact .self _

/-- A walk that fails has come to a node that raises what it fails with. -/
theorem walkAll_raises (expander : Expander) (depth : Nat) (nodes : List Node) :
    ∀ registry fault after,
      expander.walkAll depth nodes registry = .error (.fault fault) after →
        ∃ visit own blamed, expander.Visits depth nodes registry visit ∧
          visit.Raises expander own blamed ∧ fault = own.locate blamed.loc := by
  induction depth, nodes using walk_induction (fun depth node =>
    ∀ registry fault after,
      expander.walkNode depth node registry = .error (.fault fault) after →
        ∃ visit own blamed, expander.Visits depth [node] registry visit ∧
          visit.Raises expander own blamed ∧ fault = own.locate blamed.loc) with
  | leaf depth kind text loc registry fault after fails =>
      rw [walkNode_leaf] at fails
      cases fails
  | binop depth left operator right loc first second registry fault after fails =>
      obtain inLeft | ⟨lefts, middle, walked, ⟨counted, inRight⟩ | ⟨uncounted, meanwhile, same⟩ |
        ⟨counted, rights, last, walkedRight, uncounted, same⟩⟩ := walkNode_binop_error fails
      · obtain ⟨visit, own, blamed, visits, raises⟩ := first _ _ _ inLeft
        exact ⟨visit, own, blamed, .left visits, raises⟩
      · obtain ⟨visit, own, blamed, visits, raises⟩ := second _ _ _ inRight
        exact ⟨visit, own, blamed, .right walked counted visits, raises⟩
      · cases same
        exact ⟨_, _, _, .here .., .left operator loc walked uncounted meanwhile, rfl⟩
      · cases same
        exact ⟨_, _, _, .here .., .right operator loc walked counted walkedRight uncounted, rfl⟩
  | bracket depth kind children loc produced inner registry fault after fails =>
      cases defines : (Node.bracket kind children loc).definition? with
      | error malformed =>
          obtain ⟨cause, blamed, contains, rfl⟩ := Node.definition?_error defines
          rw [walkNode_definition_error defines] at fails
          cases fails
          exact ⟨_, _, _, .here .., .definition depth registry defines contains, rfl⟩
      | ok found =>
          cases found with
          | some record =>
              rw [walkNode_definition defines] at fails
              cases fails
          | none =>
              cases expands : expander.expandCall? registry (.bracket kind children loc) with
              | error failure =>
                  obtain ⟨name, entry, arguments, own, calls, runs, rfl⟩ :=
                    expandCall?_eq_error.mp expands
                  rw [walkNode_call_error defines expands] at fails
                  cases own with
                  | endless what => cases fails
                  | fault own =>
                      cases fails
                      exact ⟨_, _, _, .here .., .call depth defines calls runs, rfl⟩
              | ok given =>
                  cases given with
                  | none =>
                      rw [walkNode_kept defines expands] at fails
                      obtain inChildren | ⟨_, _, -, ended⟩ := Expanding.bind_eq_error.mp fails
                      · obtain ⟨visit, own, blamed, visits, raises⟩ := inner _ _ _ inChildren
                        exact ⟨visit, own, blamed, .child defines expands visits, raises⟩
                      · cases ended
                  | some nodes =>
                      rw [walkNode_call defines expands] at fails
                      cases depth with
                      | zero =>
                          cases fails
                          exact ⟨_, _, _, .here .., .deep defines expands, rfl⟩
                      | succ depth =>
                          obtain ⟨visit, own, blamed, visits, raises⟩ :=
                            produced depth rfl nodes _ _ _ fails
                          exact ⟨visit, own, blamed, .produced defines expands visits, raises⟩
  | nil depth =>
      intro registry fault after fails
      rw [walkAll_nil] at fails
      cases fails
  | cons depth node rest first others =>
      intro registry fault after fails
      rw [walkAll_cons] at fails
      obtain inFirst | ⟨given, middle, walked, later⟩ := Expanding.bind_eq_error.mp fails
      · obtain ⟨visit, own, blamed, visits, raises⟩ := first _ _ _ inFirst
        exact ⟨visit, own, blamed, visits.first, raises⟩
      · obtain inRest | ⟨more, last, -, ended⟩ := Expanding.bind_eq_error.mp later
        · obtain ⟨visit, own, blamed, visits, raises⟩ := others _ _ _ inRest
          exact ⟨visit, own, blamed, .later walked visits, raises⟩
        · cases ended

theorem Visit.Raises.fails {expander : Expander} {visit : Visit} {own : Fault} {blamed : Node}
    (raises : visit.Raises expander own blamed) :
    ∃ after, expander.walkNode visit.depth visit.node visit.registry =
      .error (.fault (own.locate blamed.loc)) after := by
  cases raises with
  | @definition whole _ _ _ _ malformed _ =>
      cases whole with
      | leaf | binop => cases malformed
      | bracket kind children loc => exact ⟨_, walkNode_definition_error malformed⟩
  | call depth plain called fails =>
      cases blamed with
      | leaf | binop => cases called
      | bracket kind children loc =>
          exact ⟨_, walkNode_call_error plain
            (expandCall?_eq_error.mpr ⟨_, _, _, _, called, fails, rfl⟩)⟩
  | deep plain called =>
      cases blamed with
      | leaf | binop => cases called
      | bracket kind children loc => exact ⟨_, walkNode_call plain called⟩
  | left operator loc walked uncounted meanwhile =>
      exact walkNode_left_miscounted walked uncounted meanwhile
  | right operator loc walked counted walkedRight uncounted =>
      exact walkNode_right_miscounted walked counted walkedRight uncounted

/-- Expansion fails with a fault exactly if it comes to a node that raises it. -/
theorem expandProgram_fails_iff (expander : Expander) (program : List Node) (registry : Registry)
    (fault : Fault) :
    (∃ after, expander.expandProgram program registry = .error (.fault fault) after) ↔
      ∃ visit own blamed, expander.Reaches program registry visit ∧
        visit.Raises expander own blamed ∧ fault = own.locate blamed.loc := by
  constructor
  · rintro ⟨after, fails⟩
    exact walkAll_raises expander _ program registry fault after fails
  · rintro ⟨visit, own, blamed, reached, raises, rfl⟩
    obtain ⟨after, fails⟩ := raises.fails
    exact ⟨after, reached.fails fails⟩

/-! ## Located faults -/

theorem isSome_span_locate (fault : Fault) (loc : Option Span) :
    (fault.locate loc).span.isSome = true ↔ fault.span.isSome = true ∨ loc.isSome = true := by
  cases spanned : fault.span <;> simp [Fault.locate, spanned]

/-- If expansion fails, then at a node that it has come to, and it is this node that decides
    whether the fault is located: the fault has a place of its own, or gets the place of the node
    or of a part of it. So if the program is located, and all that calls on the way produce is
    located too, then the fault is located. -/
theorem expandProgram_blames (expander : Expander) {program : List Node}
    {registry after : Registry} {fault : Fault}
    (fails : expander.expandProgram program registry = .error (.fault fault) after) :
    (∃ visit own blamed, expander.Reaches program registry visit ∧
      visit.Raises expander own blamed ∧ visit.node.Contains blamed ∧
      fault = own.locate blamed.loc ∧
      (fault.span.isSome = true ↔ own.span.isSome = true ∨ blamed.loc.isSome = true)) ∧
    ((∀ node ∈ program, node.IsLocated) →
      (∀ visit, expander.Reaches program registry visit → ∀ nodes,
        expander.expandCall? visit.registry visit.node = .ok (some nodes) →
        ∀ node ∈ nodes, node.IsLocated) →
      fault.span.isSome = true) := by
  obtain ⟨visit, own, blamed, reached, raises, rfl⟩ :=
    (expandProgram_fails_iff expander program registry fault).mp ⟨after, fails⟩
  have located := isSome_span_locate own blamed.loc
  refine ⟨⟨visit, own, blamed, reached, raises, raises.inside, rfl, located⟩, ?_⟩
  intro program produced
  exact located.mpr (.inr (reached.contains program produced blamed raises.inside))

/-- A name, read somewhere. -/
def sourceName (name : String) : Node :=
  .leaf .identifier name (some default)

/-- A bracket, read somewhere. -/
def sourceForm (kind : Bracket) (children : List Node) : Node :=
  .bracket kind children (some default)

theorem expandProgram_blames_fail :
    let grumble : Entry := .native fun _ _ => .error { cause := .host .call "native failure" }
    let registry := (Registry.register {} "fail" grumble).1
    ∃ fault after, (ones .blocking).expandProgram [sourceForm .curly [sourceName "fail"]] registry =
      .error (.fault fault) after ∧ fault.span.isSome = true := by
  intro grumble registry
  have fails : (ones .blocking).expandProgram [sourceForm .curly [sourceName "fail"]] registry =
      .error (.fault { cause := .host .call "native failure", span := some default })
        registry := rfl
  refine ⟨_, _, fails, (expandProgram_blames (ones .blocking) fails).2 ?_ ?_⟩
  · simp [sourceForm, sourceName]
  · intro visit reached nodes called
    cases reached with
    | here => cases called
    | later _ visits => cases visits
    | child _ kept _ => cases kept
    | produced _ called _ => cases called

/-- A macro that makes a call of itself, and its call. -/
def makingItself : List Node :=
  [sourceForm .curly [sourceName "def", sourceName "macro", sourceName "m", sourceForm .square [],
      sourceForm .curly [sourceName "CurlyBrackets",
        sourceForm .square [sourceForm .curly [sourceName "Identifier",
          .leaf .string "m" (some default)]]]],
    sourceForm .curly [sourceName "m"]]

/-- The failure that a walk ended in. -/
def failure? : EStateM.Result Failure Registry (List Node) → Option Failure
  | .ok _ _ => none
  | .error failure _ => some failure

/-- The program is located, but the call that is nested too deep was made by the macro. -/
theorem failure_unlocated :
    let expander : Expander := { executor := .inProcess 512, maxDepth := 1 }
    (∀ node ∈ makingItself, node.IsLocated) ∧
    ∃ after, expander.expandProgram makingItself {} =
      .error (.fault { cause := .expansionDepthExceeded 1, span := none }) after := by
  intro expander
  have located : ∀ node ∈ makingItself, node.IsLocated := by
    simp [makingItself, sourceForm, sourceName]
  have fails : failure? (expander.expandProgram makingItself {}) =
      some (.fault { cause := .expansionDepthExceeded 1, span := none }) := by
    decide +kernel
  refine ⟨located, ?_⟩
  cases ended : expander.expandProgram makingItself {} with
  | ok nodes after => simp [ended, failure?] at fails
  | error failure after =>
      simp only [ended, failure?, Option.some.injEq] at fails
      exact ⟨after, by rw [fails]⟩

end Expander

end TreeMacros
