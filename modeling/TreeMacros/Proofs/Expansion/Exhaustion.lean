import TreeMacros.Proofs.Expansion.Walk

/-! # What expansion leaves unexpanded

A call that the walk comes to is expanded, and so is what it produces. But a form is not looked at
again when its children have been expanded. If its first child was a call, what this call gave may
have made a call of the form, or a definition. There is no other way in which a call gets into
the expanded program, if nothing is defined on the way.
-/

namespace TreeMacros

namespace Node

/-- Whether the node is a call of a registered macro. -/
def isCall (registry : Registry) (node : Node) : Bool :=
  (node.call? registry).isSome

theorem get?_of_call? {registry : Registry} {node : Node} {name : String} {entry : Entry}
    {arguments : List Node} (calls : node.call? registry = some (name, entry, arguments)) :
    registry.get? name = some entry := by
  unfold call? at calls
  split at calls
  · obtain ⟨_, -, rest⟩ := Option.bind_eq_some_iff.mp calls
    obtain ⟨_, found, same⟩ := Option.bind_eq_some_iff.mp rest
    cases same
    exact found
  · cases calls

/-- Whether the node is a curly form that starts with `def macro` and has at least five children. -/
def startsDefinition : Node → Bool
  | bracket .curly (first :: second :: _ :: _ :: _ :: _) _ =>
    first.isIdent "def" && second.isIdent "macro"
  | _ => false

/-- There is no call and no definition in the node. -/
def IsExpanded (registry : Registry) (node : Node) : Prop :=
  ∀ form, node.Contains form → form.isCall registry = false ∧ form.startsDefinition = false

theorem IsExpanded.part {registry : Registry} {whole part : Node}
    (expanded : whole.IsExpanded registry) (direct : part ∈ whole.parts) :
    part.IsExpanded registry :=
  fun form contains => expanded form (.inside direct contains)

theorem isCall_eq_false {registry : Registry} {node : Node} :
    node.isCall registry = false ↔ node.call? registry = none := by
  simp [isCall]

theorem definition?_eq_none {node : Node} :
    node.definition? = .ok none ↔ node.startsDefinition = false := by
  unfold definition?
  split
  · next first second name params body loc =>
      cases body with
      | nil => simp [startsDefinition]
      | cons statement body =>
          simp only [startsDefinition, List.isEmpty_cons, Bool.not_false, Bool.and_true]
          cases first.isIdent "def" && second.isIdent "macro" with
          | false => simp
          | true =>
              simp only [if_true]
              split
              · next name params loc _ =>
                  cases definedParameters params <;>
                    simp [Bind.bind, Except.bind, pure, Except.pure]
              · simp
  · next other =>
      simp only [true_iff]
      unfold startsDefinition
      split
      · exact (other _ _ _ _ _ _ rfl).elim
      · rfl

theorem curly_of_isCall {registry : Registry} {kind : Bracket} {children : List Node}
    {loc : Option Span} (call : (bracket kind children loc).isCall registry = true) :
    kind = .curly := by
  cases kind <;> first | rfl | cases call

theorem curly_of_startsDefinition {kind : Bracket} {children : List Node} {loc : Option Span}
    (definition : (bracket kind children loc).startsDefinition = true) : kind = .curly := by
  cases kind <;> first | rfl | cases definition

section Congruence

variable {kind : Bracket} {children given : List Node} {loc loc' : Option Span}

theorem isCall_bracket (registry : Registry) :
    (bracket kind children loc).isCall registry =
      (kind == .curly && (children.head?.bind ident?).any registry.contains) := by
  cases kind with
  | curly =>
      cases children with
      | nil => rfl
      | cons head rest =>
          simp only [isCall, call?, List.head?_cons, Option.bind_some]
          cases head.ident? with
          | none => rfl
          | some name => cases found : registry.get? name <;> simp [Registry.contains, found]
  | round | square | sequence => rfl

theorem startsDefinition_bracket :
    (bracket kind children loc).startsDefinition =
      (kind == .curly && decide (5 ≤ children.length) &&
        (children.map ident?).take 2 == [some "def", some "macro"]) := by
  cases kind with
  | curly =>
      match children with
      | [] | [_] | [_, _] | [_, _, _] | [_, _, _, _] => simp [startsDefinition]
      | _ :: _ :: _ :: _ :: _ :: _ => simp [startsDefinition, isIdent]
  | round | square | sequence => rfl

/-- Whether a bracket is a call can be told from its first child. -/
theorem isCall_congr {registry : Registry}
    (same : children.head?.bind ident? = given.head?.bind ident?) :
    (bracket kind children loc).isCall registry = (bracket kind given loc').isCall registry := by
  rw [isCall_bracket, isCall_bracket, same]

/-- Whether a bracket is a definition can be told from the names among its children. -/
theorem startsDefinition_congr (same : children.map ident? = given.map ident?) :
    (bracket kind children loc).startsDefinition = (bracket kind given loc').startsDefinition := by
  have lengths : children.length = given.length := by simpa using congrArg List.length same
  rw [startsDefinition_bracket, startsDefinition_bracket, same, lengths]

end Congruence

end Node

namespace Expander

/-! ## What a walk leaves -/

theorem isCall_of_expands {expander : Expander} {registry : Registry} {node : Node}
    {nodes : List Node} (called : expander.expandCall? registry node = .ok (some nodes)) :
    node.isCall registry = true := by
  cases call : node.isCall registry with
  | true => rfl
  | false =>
      have kept : expander.expandCall? registry node = .ok none :=
        expandCall?_eq_none.mpr (Node.isCall_eq_false.mp call)
      cases called.symm.trans kept

/-- What a visited curly form, if it is no call, becomes when its children are expanded. -/
inductive Visit.Becomes (expander : Expander) : Visit → Node → Prop
  | intro {depth : Nat} {children given : List Node} {loc : Option Span}
      {registry after : Registry}
      (kept : (Node.bracket .curly children loc).isCall registry = false)
      (walked : expander.walkAll depth children registry = .ok given after) :
      Becomes expander ⟨.bracket .curly children loc, depth, registry⟩ (.bracket .curly given loc)

section Exhaustion

variable (expander : Expander) (registry : Registry) (visits : Visit → Prop)

/-- The form is a call or a definition only if a visited form has become it, by what a call among
    its children gave. -/
structure Accounted (form : Node) : Prop where
  call : form.isCall registry = true → ∃ visit, visits visit ∧ visit.Becomes expander form ∧
    ∃ first ∈ visit.node.parts.head?, first.isCall registry = true
  definition : form.startsDefinition = true → ∃ visit, visits visit ∧
    visit.Becomes expander form ∧ ∃ child ∈ visit.node.parts, child.isCall registry = true

/-- What is known of a walk on which nothing is defined: where nodes come from, and which ones kept
    their names. -/
structure Exhausts (nodes given : List Node) (after : Registry) : Prop where
  registered : after = registry
  head : ∀ first ∈ nodes.head?, first.isCall registry = false →
    given.head?.bind Node.ident? = first.ident?
  names : (∀ node ∈ nodes, node.isCall registry = false) →
    given.map Node.ident? = nodes.map Node.ident?
  forms : ∀ node ∈ given, ∀ form, node.Contains form → Accounted expander registry visits form

variable {expander registry visits}

theorem Accounted.of_neither {form : Node} (noCall : form.isCall registry = false)
    (plain : form.startsDefinition = false) : Accounted expander registry visits form :=
  ⟨fun call => by simp [noCall] at call, fun definition => by simp [plain] at definition⟩

namespace Exhausts

variable {given : List Node} {after : Registry}

theorem nil : Exhausts expander registry visits [] [] registry :=
  ⟨rfl, nofun, fun _ => rfl, nofun⟩

theorem append {node : Node} {rest more : List Node}
    (first : Exhausts expander registry visits [node] given after)
    (others : Exhausts expander registry visits rest more after) :
    Exhausts expander registry visits (node :: rest) (given ++ more) after where
  registered := first.registered
  head := by
    rintro _ ⟨⟩ noCall
    obtain ⟨same, rfl, identical⟩ := List.map_eq_singleton_iff.mp
      (first.names (by simpa using noCall))
    exact identical
  names noCalls := by
    obtain ⟨noCall, noOthers⟩ := List.forall_mem_cons.mp noCalls
    rw [List.map_append, first.names (by simpa using noCall), others.names noOthers]
    rfl
  forms node mem := (List.mem_append.mp mem).elim (first.forms node) (others.forms node)

theorem leaf (kind : LeafKind) (text : String) (loc : Option Span) :
    Exhausts expander registry visits [.leaf kind text loc] [.leaf kind text loc] registry where
  registered := rfl
  head := by
    rintro _ ⟨⟩ -
    rfl
  names _ := rfl
  forms := by
    intro node mem form contains
    obtain rfl := List.mem_singleton.mp mem
    obtain rfl := Node.contains_leaf.mp contains
    exact .of_neither rfl rfl

theorem binop {left right newLeft newRight : Node} (operator : String) (loc : Option Span)
    (first : Exhausts expander registry visits [left] [newLeft] registry)
    (second : Exhausts expander registry visits [right] [newRight] after) :
    Exhausts expander registry visits [.binop left operator right loc]
      [.binop newLeft operator newRight loc] after where
  registered := second.registered
  head := by
    rintro _ ⟨⟩ -
    rfl
  names _ := rfl
  forms := by
    intro node mem form contains
    obtain rfl := List.mem_singleton.mp mem
    obtain rfl | ⟨part, direct, deeper⟩ := Node.contains_iff.mp contains
    · exact .of_neither rfl rfl
    · obtain rfl | rfl : part = newLeft ∨ part = newRight := by simpa [Node.parts] using direct
      · exact first.forms _ (List.mem_singleton_self _) form deeper
      · exact second.forms _ (List.mem_singleton_self _) form deeper

/-- A call leaves what its expansion leaves. -/
theorem of_produced {node : Node} {nodes : List Node} (call : node.isCall registry = true)
    (produced : Exhausts expander registry visits nodes given after) :
    Exhausts expander registry visits [node] given after where
  registered := produced.registered
  head := by
    rintro _ ⟨⟩ noCall
    simp [call] at noCall
  names noCall := by simp [call] at noCall
  forms := produced.forms

/-- A bracket becomes a call only if its first child is one. -/
theorem head_isCall {children : List Node} {kind : Bracket} {loc loc' : Option Span}
    (inner : Exhausts expander registry visits children given after)
    (noCall : (Node.bracket kind children loc).isCall registry = false)
    (call : (Node.bracket kind given loc').isCall registry = true) :
    ∃ first ∈ children.head?, first.isCall registry = true := by
  by_cases noFirst : ∀ first ∈ children.head?, first.isCall registry = false
  · have same : children.head?.bind Node.ident? = given.head?.bind Node.ident? := by
      cases children with
      | nil => rw [List.map_eq_nil_iff.mp (inner.names nofun)]
      | cons first rest => exact (inner.head first rfl (noFirst first rfl)).symm
    rw [Node.isCall_congr same, call] at noCall
    cases noCall
  · simpa using noFirst

/-- A bracket becomes a definition only if one of its children is a call. -/
theorem child_isCall {children : List Node} {kind : Bracket} {loc loc' : Option Span}
    (inner : Exhausts expander registry visits children given after)
    (plain : (Node.bracket kind children loc).startsDefinition = false)
    (definition : (Node.bracket kind given loc').startsDefinition = true) :
    ∃ child ∈ children, child.isCall registry = true := by
  by_cases noChild : ∀ child ∈ children, child.isCall registry = false
  · rw [Node.startsDefinition_congr (inner.names noChild).symm, definition] at plain
    cases plain
  · simpa using noChild

/-- A form that is kept is made a call by its first child, and a definition by any of them. -/
theorem kept {depth : Nat} {kind : Bracket} {children : List Node} {loc : Option Span}
    (noCall : (Node.bracket kind children loc).isCall registry = false)
    (plain : (Node.bracket kind children loc).startsDefinition = false)
    (visited : visits ⟨.bracket kind children loc, depth, registry⟩)
    (walked : expander.walkAll depth children registry = .ok given after)
    (inner : Exhausts expander registry visits children given after) :
    Exhausts expander registry visits [.bracket kind children loc] [.bracket kind given loc]
      after where
  registered := inner.registered
  head := by
    rintro _ ⟨⟩ -
    rfl
  names _ := rfl
  forms := by
    intro node mem form contains
    obtain rfl := List.mem_singleton.mp mem
    obtain rfl | ⟨part, direct, deeper⟩ := Node.contains_iff.mp contains
    · constructor
      · intro call
        obtain rfl := Node.curly_of_isCall call
        exact ⟨_, visited, .intro noCall walked, inner.head_isCall noCall call⟩
      · intro definition
        obtain rfl := Node.curly_of_startsDefinition definition
        exact ⟨_, visited, .intro noCall walked, inner.child_isCall plain definition⟩
    · exact inner.forms part direct form deeper

end Exhausts

theorem walkAll_exhausts (plain : ∀ visit, visits visit → visit.node.startsDefinition = false)
    (depth : Nat) (nodes : List Node) :
    (∀ visit, expander.Visits depth nodes registry visit → visits visit) →
      ∀ given after, expander.walkAll depth nodes registry = .ok given after →
        Exhausts expander registry visits nodes given after := by
  induction depth, nodes using walk_induction (fun depth node =>
    (∀ visit, expander.Visits depth [node] registry visit → visits visit) →
      ∀ given after, expander.walkNode depth node registry = .ok given after →
        Exhausts expander registry visits [node] given after) with
  | leaf depth kind text loc _ given after walked =>
      rw [walkNode_leaf, Expanding.pure_eq_ok] at walked
      obtain ⟨rfl, rfl⟩ := walked
      exact .leaf kind text loc
  | binop depth left operator right loc first second met given after walked =>
      obtain ⟨newLeft, middle, newRight, lefts, rights, rfl⟩ := walkNode_binop_eq_ok.mp walked
      have left := first (fun visit visits => met visit (.left visits)) _ _ lefts
      obtain rfl := left.registered
      exact left.binop operator loc
        (second (fun visit visits => met visit (.right lefts (fun _ => rfl) visits)) _ _ rights)
  | bracket depth kind children loc produced inner met given after walked =>
      have visited := met _ (.here ..)
      have noDefinition := Node.definition?_eq_none.mpr (plain _ visited)
      cases expands : expander.expandCall? registry (.bracket kind children loc) with
      | error failure =>
          rw [walkNode_call_error noDefinition expands] at walked
          cases walked
      | ok found =>
          cases found with
          | some nodes =>
              rw [walkNode_call noDefinition expands] at walked
              cases depth with
              | zero => cases walked
              | succ depth =>
                  exact .of_produced (isCall_of_expands expands) (produced depth rfl nodes
                    (fun visit visits => met visit (.produced noDefinition expands visits)) _ _
                    walked)
          | none =>
              rw [walkNode_kept noDefinition expands, Expanding.bind_eq_ok] at walked
              obtain ⟨given, middle, walkedAll, ended⟩ := walked
              obtain ⟨rfl, rfl⟩ := Expanding.pure_eq_ok.mp ended
              exact .kept (Node.isCall_eq_false.mpr (expandCall?_eq_none.mp expands))
                (plain _ visited) visited walkedAll
                (inner (fun visit visits => met visit (.child noDefinition expands visits)) _ _
                  walkedAll)
  | nil depth =>
      intro _ given after walked
      rw [walkAll_nil, Expanding.pure_eq_ok] at walked
      obtain ⟨rfl, rfl⟩ := walked
      exact .nil
  | cons depth node rest first others =>
      intro met given after walked
      rw [walkAll_cons, Expanding.bind_eq_ok] at walked
      obtain ⟨given, middle, walkedFirst, walked⟩ := walked
      obtain ⟨more, last, walkedRest, ended⟩ := Expanding.bind_eq_ok.mp walked
      obtain ⟨rfl, rfl⟩ := Expanding.pure_eq_ok.mp ended
      have exhausted := first (fun visit visits => met visit visits.first) _ _ walkedFirst
      obtain rfl := exhausted.registered
      have others := others (fun visit visits => met visit (.later walkedFirst visits)) _ _
        walkedRest
      obtain rfl := others.registered
      exact exhausted.append others

end Exhaustion

/-! ## Expanding again -/

section Again

variable {expander : Expander} {depth : Nat} {registry : Registry}

theorem walkAll_of_each {nodes : List Node}
    (each : ∀ node ∈ nodes, expander.walkNode depth node registry = .ok [node] registry) :
    expander.walkAll depth nodes registry = .ok nodes registry := by
  induction nodes with
  | nil => rw [walkAll_nil, Expanding.pure_eq_ok]; exact ⟨rfl, rfl⟩
  | cons node rest ih =>
      obtain ⟨first, others⟩ := List.forall_mem_cons.mp each
      rw [walkAll_cons, Expanding.bind_eq_ok]
      exact ⟨_, _, first, Expanding.bind_eq_ok.mpr ⟨_, _, ih others, rfl⟩⟩

theorem walkNode_expanded {node : Node} (expanded : node.IsExpanded registry) :
    expander.walkNode depth node registry = .ok [node] registry := by
  induction node using Node.parts_induction with
  | step whole parts =>
      have each : ∀ part ∈ whole.parts,
          expander.walkNode depth part registry = .ok [part] registry :=
        fun part direct => parts part direct (expanded.part direct)
      cases whole with
      | leaf kind text loc => rw [walkNode_leaf]; rfl
      | binop left operator right loc =>
          obtain ⟨lefts, rights⟩ : expander.walkNode depth left registry = .ok [left] registry ∧
              expander.walkNode depth right registry = .ok [right] registry := by
            simpa [Node.parts] using each
          exact walkNode_binop_eq_ok.mpr ⟨_, _, _, lefts, rights, rfl⟩
      | bracket kind children loc =>
          obtain ⟨noCall, plain⟩ := expanded _ (.self _)
          rw [walkNode_kept (Node.definition?_eq_none.mpr plain)
            (expandCall?_eq_none.mpr (Node.isCall_eq_false.mp noCall)), Expanding.bind_eq_ok]
          exact ⟨_, _, walkAll_of_each each, rfl⟩

/-- Where there is nothing to expand, expansion changes nothing. -/
theorem expandProgram_expanded {program : List Node}
    (expanded : ∀ node ∈ program, node.IsExpanded registry) :
    expander.expandProgram program registry = .ok program registry :=
  walkAll_of_each fun node mem => walkNode_expanded (expanded node mem)

end Again

/-! ## Expanded programs -/

/-- Where the walk comes to no definition, a call that expansion leaves is a form that it has
    rebuilt: the first child of this form was a call, and what it gave has made a call of the form.
    In the same way, a definition is left only where some child was a call. If what is left holds
    neither, then expanding it again changes nothing; so it is if no form that is kept has a call
    among its children. -/
theorem expandProgram_exhausts (expander : Expander) {program nodes : List Node}
    {registry after : Registry}
    (plain : ∀ visit, expander.Reaches program registry visit →
      visit.node.startsDefinition = false)
    (expands : expander.expandProgram program registry = .ok nodes after) :
    after = registry ∧
    (∀ node ∈ nodes, ∀ form, node.Contains form → form.isCall registry = true →
      ∃ visit, expander.Reaches program registry visit ∧ visit.Becomes expander form ∧
        ∃ first ∈ visit.node.parts.head?, first.isCall registry = true) ∧
    (∀ node ∈ nodes, ∀ form, node.Contains form → form.startsDefinition = true →
      ∃ visit, expander.Reaches program registry visit ∧ visit.Becomes expander form ∧
        ∃ child ∈ visit.node.parts, child.isCall registry = true) ∧
    ((∀ node ∈ nodes, node.IsExpanded registry) →
      expander.expandProgram nodes registry = .ok nodes registry) ∧
    ((∀ visit form, expander.Reaches program registry visit → visit.Becomes expander form →
        ∀ child ∈ visit.node.parts, child.isCall registry = false) →
      (∀ node ∈ nodes, node.IsExpanded registry) ∧
        expander.expandProgram nodes registry = .ok nodes registry) := by
  have exhausted :
      Exhausts expander registry (expander.Reaches program registry) program nodes after :=
    walkAll_exhausts plain expander.maxDepth program (fun _ reached => reached) nodes after expands
  have again : (∀ node ∈ nodes, node.IsExpanded registry) →
      expander.expandProgram nodes registry = .ok nodes registry :=
    expandProgram_expanded
  refine ⟨exhausted.registered, fun node mem form contains =>
    (exhausted.forms node mem form contains).call, fun node mem form contains =>
    (exhausted.forms node mem form contains).definition, again, fun noCalls => ?_⟩
  have expanded : ∀ node ∈ nodes, node.IsExpanded registry := by
    intro node mem form contains
    have accounted := exhausted.forms node mem form contains
    constructor
    · refine Bool.eq_false_iff.mpr fun call => ?_
      obtain ⟨visit, reached, becomes, first, here, called⟩ := accounted.call call
      have noCall := noCalls visit form reached becomes first (List.mem_of_head? here)
      exact Bool.eq_false_iff.mp noCall called
    · refine Bool.eq_false_iff.mpr fun definition => ?_
      obtain ⟨visit, reached, becomes, child, here, called⟩ := accounted.definition definition
      exact Bool.eq_false_iff.mp (noCalls visit form reached becomes child here) called
  exact ⟨expanded, again expanded⟩

/-- Host macros that give the same nodes whatever their arguments are. -/
def constants (given : Fields (List Node)) : Registry :=
  given.foldl (fun registry (name, nodes) =>
    (registry.register name (.native fun _ _ => .ok (.nodes nodes))).1) {}

theorem expandProgram_exhausts_zero :
    let registry := constants [("zero", [.number "0"])]
    let program : List Node := [.square [.ident "zero", .curly [.ident "zero"]]]
    let expanded : List Node := [.square [.ident "zero", .number "0"]]
    (∀ visit, (ones .blocking).Reaches program registry visit →
      visit.node.startsDefinition = false) ∧
    (ones .blocking).expandProgram program registry = .ok expanded registry ∧
    (ones .blocking).expandProgram expanded registry = .ok expanded registry := by
  intro registry program expanded
  have expands : (ones .blocking).expandProgram program registry = .ok expanded registry := rfl
  have plain : ∀ visit, (ones .blocking).Reaches program registry visit →
      visit.node.startsDefinition = false := by
    intro visit reached
    simp only [Reaches, program] at reached
    cases reached with
    | here => rfl
    | later _ visits => cases visits
    | produced plain called visits => cases called
    | child plain kept visits =>
        cases visits with
        | here => rfl
        | later walked visits =>
            cases walked
            cases visits with
            | here => rfl
            | later _ visits => cases visits
            | child plain kept visits => cases kept
            | produced plain called visits =>
                cases called
                cases visits with
                | here => rfl
                | later _ visits => cases visits
  have again := (expandProgram_exhausts (ones .blocking) plain expands).2.2.2.1
  refine ⟨plain, expands, again ?_⟩
  intro node mem form contains
  obtain rfl := List.mem_singleton.mp mem
  simp only [Node.square, Node.ident, Node.number, Node.contains_bracket, Node.contains_leaf,
    List.mem_cons, List.not_mem_nil, or_false, exists_eq_or_imp, exists_eq_left] at contains
  obtain rfl | rfl | rfl := contains <;> exact ⟨rfl, rfl⟩

/-- A form becomes a call because its first child gives nothing, and another one becomes a
    definition because of what its second child gives. -/
theorem expandProgram_leaves_calls :
    let registry := constants [("none", []), ("zero", [.number "0"]), ("kind", [.ident "macro"])]
    let program : List Node := [.curly [.curly [.ident "none"], .ident "zero"],
      .curly [.ident "def", .curly [.ident "kind"], .ident "m", .square [], .number "1"]]
    (∀ node ∈ program, ∀ form, node.Contains form → form.startsDefinition = false) ∧
    (∀ call more, (ones .blocking).expandCall? registry call = .ok (some more) →
      ∀ node ∈ more, ∀ form, node.Contains form → form.startsDefinition = false) ∧
    ∃ call definition registered,
      (ones .blocking).expandProgram program registry = .ok [call, definition] registry ∧
      call.isCall registry = true ∧ definition.startsDefinition = true ∧
      (ones .blocking).expandProgram [call, definition] registry =
        .ok [.number "0"] registered := by
  intro registry program
  refine ⟨?_, ?_, _, _, _, rfl, rfl, rfl, rfl⟩
  · intro node mem form contains
    simp only [program, List.mem_cons, List.not_mem_nil, or_false] at mem
    obtain rfl | rfl := mem
    · simp only [Node.curly, Node.ident, Node.contains_bracket, Node.contains_leaf, List.mem_cons,
        List.not_mem_nil, or_false, exists_eq_or_imp, exists_eq_left, or_assoc] at contains
      obtain rfl | rfl | rfl | rfl := contains <;> rfl
    · simp only [Node.curly, Node.ident, Node.square, Node.number, Node.contains_bracket,
        Node.contains_leaf, List.mem_cons, List.not_mem_nil, or_false, false_and, exists_false,
        exists_eq_or_imp, exists_eq_left, or_assoc] at contains
      obtain rfl | rfl | rfl | rfl | rfl | rfl | rfl := contains <;> rfl
  · intro call more called
    obtain ⟨name, entry, arguments, expansion, calls, runs, rfl⟩ := expandCall?_eq_some.mp called
    have member : (name, entry) ∈ registry.entries := by
      obtain ⟨before, behind, there, -⟩ := List.lookup_eq_some_iff.mp (Node.get?_of_call? calls)
      simp [there]
    have entries : registry.entries = [("none", .native fun _ _ => .ok (.nodes [])),
      ("zero", .native fun _ _ => .ok (.nodes [.number "0"])),
      ("kind", .native fun _ _ => .ok (.nodes [.ident "macro"]))] := rfl
    simp only [entries, List.mem_cons, Prod.mk.injEq, List.not_mem_nil, or_false] at member
    intro node mem form contains
    obtain ⟨-, rfl⟩ | ⟨-, rfl⟩ | ⟨-, rfl⟩ := member
    · cases runs
      cases mem
    · cases runs
      obtain rfl := List.mem_singleton.mp mem
      obtain rfl := Node.contains_leaf.mp contains
      rfl
    · cases runs
      obtain rfl := List.mem_singleton.mp mem
      obtain rfl := Node.contains_leaf.mp contains
      rfl

end Expander

end TreeMacros
