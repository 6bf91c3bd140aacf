import TreeMacros.Proofs.Expansion.Pacing
import TreeMacros.Proofs.Node.Parts

/-! # The walk of a program

Expansion walks what it is given in order, and what calls produce in place of these. Here is which
nodes a walk comes to, with what is registered at that moment, and what is known of a walk that
succeeds and of one that fails.
-/

namespace TreeMacros

/-! ## Sequences of computations -/

namespace Expanding

variable {α β : Type} {action : Expanding α} {next : α → Expanding β} {registry after : Registry}

theorem bind_eq_ok {b : β} :
    (action >>= next) registry = .ok b after ↔
      ∃ a middle, action registry = .ok a middle ∧ next a middle = .ok b after := by
  simp only [Bind.bind, EStateM.bind]
  cases action registry <;> simp [and_assoc]

theorem bind_eq_error {failure : Failure} :
    (action >>= next) registry = .error failure after ↔
      action registry = .error failure after ∨
        ∃ a middle, action registry = .ok a middle ∧ next a middle = .error failure after := by
  simp only [Bind.bind, EStateM.bind]
  cases action registry <;> simp [and_assoc]

theorem pure_eq_ok {a b : α} :
    (pure a : Expanding α) registry = .ok b after ↔ b = a ∧ after = registry := by
  constructor
  · rintro ⟨⟩
    exact ⟨rfl, rfl⟩
  · rintro ⟨rfl, rfl⟩
    rfl

end Expanding

namespace Expander

theorem single_eq_ok {loc : Option Span} {nodes : List Node} {node : Node}
    {registry after : Registry} :
    single loc nodes registry = .ok node after ↔ nodes = [node] ∧ after = registry := by
  match nodes with
  | [_] =>
      simp only [single, Expanding.pure_eq_ok]
      simp [eq_comm]
  | [] | _ :: _ :: _ => exact ⟨nofun, nofun⟩

theorem single_eq_error {loc : Option Span} {nodes : List Node} {failure : Failure}
    {registry after : Registry} :
    single loc nodes registry = .error failure after ↔
      nodes.length ≠ 1 ∧
        failure = .fault { cause := .operandCount nodes.length, span := loc } ∧
        after = registry := by
  by_cases counted : nodes.length = 1
  · obtain ⟨node, rfl⟩ := List.length_eq_one_iff.mp counted
    exact ⟨nofun, fun miscounted => absurd counted miscounted.1⟩
  · rw [single_miscounted counted]
    constructor
    · rintro ⟨⟩
      exact ⟨counted, rfl, rfl⟩
    · rintro ⟨-, rfl, rfl⟩
      rfl

theorem define?_eq (node : Node) (registry : Registry) :
    define? node registry =
      match node.definition? with
      | .error fault => .error (.fault fault) registry
      | .ok none => .ok false registry
      | .ok (some record) =>
        .ok true (registry.register record.name (.defined record.definition)).1 := by
  unfold define?
  simp only [Bind.bind, EStateM.bind]
  cases node.definition? with
  | error fault => rfl
  | ok found => cases found <;> rfl

theorem expandCall?_eq_none {expander : Expander} {registry : Registry} {node : Node} :
    expander.expandCall? registry node = .ok none ↔ node.call? registry = none := by
  unfold expandCall?
  cases node.call? registry with
  | none => simp
  | some call =>
      obtain ⟨name, entry, arguments⟩ := call
      dsimp only
      cases expander.runEntry registry name arguments entry <;> simp

theorem expandCall?_eq_some {expander : Expander} {registry : Registry} {node : Node}
    {nodes : List Node} :
    expander.expandCall? registry node = .ok (some nodes) ↔
      ∃ name entry arguments expansion,
        node.call? registry = some (name, entry, arguments) ∧
        expander.runEntry registry name arguments entry = .ok expansion ∧
        nodes = expansion.toList := by
  unfold expandCall?
  cases node.call? registry with
  | none => simp
  | some call =>
      obtain ⟨name, entry, arguments⟩ := call
      dsimp only
      constructor
      · intro called
        cases runs : expander.runEntry registry name arguments entry with
        | error failure => simp [runs] at called
        | ok expansion =>
            simp only [runs, Except.ok.injEq, Option.some.injEq] at called
            exact ⟨_, _, _, expansion, rfl, runs, called.symm⟩
      · rintro ⟨_, _, _, expansion, ⟨⟩, runs, rfl⟩
        rw [runs]

theorem expandCall?_eq_error {expander : Expander} {registry : Registry} {node : Node}
    {failure : Failure} :
    expander.expandCall? registry node = .error failure ↔
      ∃ name entry arguments own,
        node.call? registry = some (name, entry, arguments) ∧
        expander.runEntry registry name arguments entry = .error own ∧
        failure = own.locate node.loc := by
  unfold expandCall?
  cases node.call? registry with
  | none => simp
  | some call =>
      obtain ⟨name, entry, arguments⟩ := call
      dsimp only
      constructor
      · intro refused
        cases runs : expander.runEntry registry name arguments entry with
        | ok expansion => simp [runs] at refused
        | error own =>
            simp only [runs, Except.error.injEq] at refused
            exact ⟨_, _, _, own, rfl, runs, refused.symm⟩
      · rintro ⟨_, _, _, own, ⟨⟩, runs, rfl⟩
        rw [runs]

/-! ## The steps of a walk that succeeds and of one that fails -/

section Steps

variable {expander : Expander} {depth : Nat} {given : List Node} {registry after : Registry}
  {failure : Failure}

theorem walkNode_binop_eq_ok {left right : Node} {operator : String} {loc : Option Span} :
    expander.walkNode depth (.binop left operator right loc) registry = .ok given after ↔
      ∃ newLeft middle newRight, expander.walkNode depth left registry = .ok [newLeft] middle ∧
        expander.walkNode depth right middle = .ok [newRight] after ∧
        given = [.binop newLeft operator newRight loc] := by
  cases pacing : expander.pacing with
  | blocking =>
      simp only [walkNode_blocking depth pacing, Expanding.bind_eq_ok, single_eq_ok,
        Expanding.pure_eq_ok]
      constructor
      · rintro ⟨_, _, lefts, _, _, ⟨rfl, rfl⟩, _, _, rights, _, _, ⟨rfl, rfl⟩, rfl, rfl⟩
        exact ⟨_, _, _, lefts, rights, rfl⟩
      · rintro ⟨_, _, _, lefts, rights, rfl⟩
        exact ⟨_, _, lefts, _, _, ⟨rfl, rfl⟩, _, _, rights, _, _, ⟨rfl, rfl⟩, rfl, rfl⟩
  | concurrent =>
      simp only [walkNode_concurrent depth pacing, Expanding.bind_eq_ok, single_eq_ok,
        Expanding.pure_eq_ok]
      constructor
      · rintro ⟨_, _, lefts, _, _, rights, _, _, ⟨rfl, rfl⟩, _, _, ⟨rfl, rfl⟩, rfl, rfl⟩
        exact ⟨_, _, _, lefts, rights, rfl⟩
      · rintro ⟨_, _, _, lefts, rights, rfl⟩
        exact ⟨_, _, lefts, _, _, rights, _, _, ⟨rfl, rfl⟩, _, _, ⟨rfl, rfl⟩, rfl, rfl⟩

section Operands

variable {left right : Node} {operator : String} {loc : Option Span} {lefts rights : List Node}
  {middle last : Registry}

theorem walkNode_left_error (fails : expander.walkNode depth left registry = .error failure after) :
    expander.walkNode depth (.binop left operator right loc) registry = .error failure after := by
  cases pacing : expander.pacing with
  | blocking =>
      rw [walkNode_blocking depth pacing]
      exact Expanding.bind_eq_error.mpr (.inl fails)
  | concurrent =>
      rw [walkNode_concurrent depth pacing]
      exact Expanding.bind_eq_error.mpr (.inl fails)

theorem walkNode_right_error (walked : expander.walkNode depth left registry = .ok lefts middle)
    (counted : expander.pacing = .blocking → lefts.length = 1)
    (fails : expander.walkNode depth right middle = .error failure after) :
    expander.walkNode depth (.binop left operator right loc) registry = .error failure after := by
  cases pacing : expander.pacing with
  | blocking =>
      obtain ⟨only, rfl⟩ := List.length_eq_one_iff.mp (counted pacing)
      rw [walkNode_blocking depth pacing]
      refine Expanding.bind_eq_error.mpr (.inr ⟨_, _, walked, ?_⟩)
      exact Expanding.bind_eq_error.mpr (.inr ⟨only, middle, rfl,
        Expanding.bind_eq_error.mpr (.inl fails)⟩)
  | concurrent =>
      rw [walkNode_concurrent depth pacing]
      refine Expanding.bind_eq_error.mpr (.inr ⟨_, _, walked, ?_⟩)
      exact Expanding.bind_eq_error.mpr (.inl fails)

/-- The fault of an operand that does not give a single node. -/
def miscounted (nodes : List Node) (loc : Option Span) : Failure :=
  .fault { cause := .operandCount nodes.length, span := loc }

theorem walkNode_left_miscounted
    (walked : expander.walkNode depth left registry = .ok lefts middle)
    (uncounted : lefts.length ≠ 1)
    (meanwhile : expander.pacing = .concurrent →
      ∃ rights last, expander.walkNode depth right middle = .ok rights last) :
    ∃ after, expander.walkNode depth (.binop left operator right loc) registry =
      .error (miscounted lefts loc) after := by
  cases pacing : expander.pacing with
  | blocking =>
      rw [walkNode_blocking depth pacing]
      refine ⟨middle, Expanding.bind_eq_error.mpr (.inr ⟨_, _, walked, ?_⟩)⟩
      exact Expanding.bind_eq_error.mpr (.inl (single_miscounted uncounted loc middle))
  | concurrent =>
      obtain ⟨rights, last, walkedRight⟩ := meanwhile pacing
      rw [walkNode_concurrent depth pacing]
      refine ⟨last, Expanding.bind_eq_error.mpr (.inr ⟨_, _, walked, ?_⟩)⟩
      refine Expanding.bind_eq_error.mpr (.inr ⟨_, _, walkedRight, ?_⟩)
      exact Expanding.bind_eq_error.mpr (.inl (single_miscounted uncounted loc last))

theorem walkNode_right_miscounted
    (walked : expander.walkNode depth left registry = .ok lefts middle)
    (counted : lefts.length = 1)
    (walkedRight : expander.walkNode depth right middle = .ok rights last)
    (uncounted : rights.length ≠ 1) :
    ∃ after, expander.walkNode depth (.binop left operator right loc) registry =
      .error (miscounted rights loc) after := by
  obtain ⟨only, rfl⟩ := List.length_eq_one_iff.mp counted
  have stops := single_miscounted uncounted loc last
  refine ⟨last, ?_⟩
  cases pacing : expander.pacing with
  | blocking =>
      rw [walkNode_blocking depth pacing]
      refine Expanding.bind_eq_error.mpr (.inr ⟨_, _, walked, ?_⟩)
      refine Expanding.bind_eq_error.mpr (.inr ⟨only, middle, rfl, ?_⟩)
      refine Expanding.bind_eq_error.mpr (.inr ⟨_, _, walkedRight, ?_⟩)
      exact Expanding.bind_eq_error.mpr (.inl stops)
  | concurrent =>
      rw [walkNode_concurrent depth pacing]
      refine Expanding.bind_eq_error.mpr (.inr ⟨_, _, walked, ?_⟩)
      refine Expanding.bind_eq_error.mpr (.inr ⟨_, _, walkedRight, ?_⟩)
      refine Expanding.bind_eq_error.mpr (.inr ⟨only, last, rfl, ?_⟩)
      exact Expanding.bind_eq_error.mpr (.inl stops)

/-- The walk of a binary operation fails in an operand, or at the number of nodes that one gives. -/
theorem walkNode_binop_error
    (fails : expander.walkNode depth (.binop left operator right loc) registry =
      .error failure after) :
    expander.walkNode depth left registry = .error failure after ∨
      ∃ lefts middle, expander.walkNode depth left registry = .ok lefts middle ∧
        ((expander.pacing = .blocking → lefts.length = 1) ∧
            expander.walkNode depth right middle = .error failure after ∨
          lefts.length ≠ 1 ∧ (expander.pacing = .concurrent →
            ∃ rights last, expander.walkNode depth right middle = .ok rights last) ∧
            failure = miscounted lefts loc ∨
          lefts.length = 1 ∧ ∃ rights last,
            expander.walkNode depth right middle = .ok rights last ∧ rights.length ≠ 1 ∧
            failure = miscounted rights loc) := by
  cases pacing : expander.pacing with
  | blocking =>
      simp only [walkNode_blocking depth pacing, Expanding.bind_eq_error, single_eq_ok,
        single_eq_error] at fails
      obtain left | ⟨lefts, middle, walked, ⟨uncounted, same, -⟩ |
        ⟨_, _, ⟨rfl, rfl⟩, right | ⟨rights, last, walkedRight,
          ⟨uncounted, same, -⟩ | ⟨_, _, _, ⟨⟩⟩⟩⟩⟩ := fails
      · exact .inl left
      · exact .inr ⟨_, _, walked, .inr (.inl ⟨uncounted, nofun, same⟩)⟩
      · exact .inr ⟨_, _, walked, .inl ⟨fun _ => rfl, right⟩⟩
      · exact .inr ⟨_, _, walked, .inr (.inr ⟨rfl, _, _, walkedRight, uncounted, same⟩)⟩
  | concurrent =>
      simp only [walkNode_concurrent depth pacing, Expanding.bind_eq_error, single_eq_ok,
        single_eq_error] at fails
      obtain left | ⟨lefts, middle, walked, right | ⟨rights, last, walkedRight,
        ⟨uncounted, same, -⟩ | ⟨_, _, ⟨rfl, rfl⟩, ⟨uncounted, same, -⟩ | ⟨_, _, _, ⟨⟩⟩⟩⟩⟩ := fails
      · exact .inl left
      · exact .inr ⟨_, _, walked, .inl ⟨nofun, right⟩⟩
      · exact .inr ⟨_, _, walked, .inr (.inl ⟨uncounted, fun _ => ⟨_, _, walkedRight⟩, same⟩)⟩
      · exact .inr ⟨_, _, walked, .inr (.inr ⟨rfl, _, _, walkedRight, uncounted, same⟩)⟩

end Operands

section Bracket

variable {kind : Bracket} {children : List Node} {loc : Option Span}

theorem walkNode_definition_error {fault : Fault}
    (malformed : (Node.bracket kind children loc).definition? = .error fault) :
    expander.walkNode depth (.bracket kind children loc) registry =
      .error (.fault fault) registry := by
  rw [walkNode_bracket, define?_eq, malformed]

theorem walkNode_definition {record : Record}
    (definition : (Node.bracket kind children loc).definition? = .ok (some record)) :
    expander.walkNode depth (.bracket kind children loc) registry =
      .ok [] (registry.register record.name (.defined record.definition)).1 := by
  rw [walkNode_bracket, define?_eq, definition]

theorem walkNode_call_error
    (plain : (Node.bracket kind children loc).definition? = .ok none)
    (refused : expander.expandCall? registry (.bracket kind children loc) = .error failure) :
    expander.walkNode depth (.bracket kind children loc) registry = .error failure registry := by
  rw [walkNode_bracket, define?_eq, plain]
  simp only [refused]

theorem walkNode_call {nodes : List Node}
    (plain : (Node.bracket kind children loc).definition? = .ok none)
    (called : expander.expandCall? registry (.bracket kind children loc) = .ok (some nodes)) :
    expander.walkNode depth (.bracket kind children loc) registry =
      expander.expandDeeper depth loc nodes registry := by
  rw [walkNode_bracket, define?_eq, plain]
  simp only [called]

theorem walkNode_kept
    (plain : (Node.bracket kind children loc).definition? = .ok none)
    (kept : expander.expandCall? registry (.bracket kind children loc) = .ok none) :
    expander.walkNode depth (.bracket kind children loc) registry =
      (expander.walkAll depth children >>= fun given =>
        pure [.bracket kind given loc]) registry := by
  rw [walkNode_bracket, define?_eq, plain]
  simp only [kept]

end Bracket

end Steps

/-! ## The nodes that a walk comes to -/

/-- A node that a walk has come to. -/
structure Visit where
  node : Node
  /-- How deep calls may still be nested there. -/
  depth : Nat
  /-- What is registered at that moment. -/
  registry : Registry

/-- The walk of nodes in a row, where calls may be nested so deep, comes to a node. It goes into
    operands, into the children of what is neither a definition nor a call, and into what a call
    produced. -/
inductive Visits (expander : Expander) : Nat → List Node → Registry → Visit → Prop
  | here (depth : Nat) (node : Node) (rest : List Node) (registry : Registry) :
      Visits expander depth (node :: rest) registry ⟨node, depth, registry⟩
  | later {depth : Nat} {node : Node} {rest given : List Node} {registry after : Registry}
      {visit : Visit} (walked : expander.walkNode depth node registry = .ok given after)
      (visits : Visits expander depth rest after visit) :
      Visits expander depth (node :: rest) registry visit
  | left {depth : Nat} {left right : Node} {operator : String} {loc : Option Span}
      {rest : List Node} {registry : Registry} {visit : Visit}
      (visits : Visits expander depth [left] registry visit) :
      Visits expander depth (.binop left operator right loc :: rest) registry visit
  | right {depth : Nat} {left right : Node} {operator : String} {loc : Option Span}
      {rest lefts : List Node} {registry after : Registry} {visit : Visit}
      (walked : expander.walkNode depth left registry = .ok lefts after)
      (counted : expander.pacing = .blocking → lefts.length = 1)
      (visits : Visits expander depth [right] after visit) :
      Visits expander depth (.binop left operator right loc :: rest) registry visit
  | child {depth : Nat} {kind : Bracket} {children : List Node} {loc : Option Span}
      {rest : List Node} {registry : Registry} {visit : Visit}
      (plain : (Node.bracket kind children loc).definition? = .ok none)
      (kept : expander.expandCall? registry (.bracket kind children loc) = .ok none)
      (visits : Visits expander depth children registry visit) :
      Visits expander depth (.bracket kind children loc :: rest) registry visit
  | produced {depth : Nat} {kind : Bracket} {children : List Node} {loc : Option Span}
      {rest nodes : List Node} {registry : Registry} {visit : Visit}
      (plain : (Node.bracket kind children loc).definition? = .ok none)
      (called : expander.expandCall? registry (.bracket kind children loc) = .ok (some nodes))
      (visits : Visits expander depth nodes registry visit) :
      Visits expander (depth + 1) (.bracket kind children loc :: rest) registry visit

/-- What a walk comes to from the first of some nodes. -/
theorem Visits.first {expander : Expander} {depth : Nat} {node : Node} {rest : List Node}
    {registry : Registry} {visit : Visit}
    (visits : expander.Visits depth [node] registry visit) :
    expander.Visits depth (node :: rest) registry visit := by
  cases visits with
  | here => exact .here ..
  | later _ visits => cases visits
  | left visits => exact .left visits
  | right walked counted visits => exact .right walked counted visits
  | child plain kept visits => exact .child plain kept visits
  | produced plain called visits => exact .produced plain called visits

/-- What holds of all nodes in what is walked, and of all nodes in what calls on the way produce,
    holds of all nodes in what the walk comes to. -/
theorem Visits.contains {expander : Expander} {P : Node → Prop} {depth : Nat}
    {nodes : List Node} {registry : Registry} {visit : Visit}
    (visits : expander.Visits depth nodes registry visit)
    (given : ∀ node ∈ nodes, ∀ form, node.Contains form → P form)
    (produced : ∀ visit, expander.Visits depth nodes registry visit →
      ∀ more, expander.expandCall? visit.registry visit.node = .ok (some more) →
        ∀ node ∈ more, ∀ form, node.Contains form → P form) :
    ∀ form, visit.node.Contains form → P form := by
  -- the node that a part stands in holds all that the part holds
  have within : ∀ {whole part : Node}, (∀ form, whole.Contains form → P form) →
      part ∈ whole.parts → ∀ form, part.Contains form → P form :=
    fun all direct form contains => all form (.inside direct contains)
  induction visits with
  | here depth node rest registry => exact given node (List.mem_cons_self ..)
  | later walked _ ih =>
      exact ih (fun node mem => given node (List.mem_cons_of_mem _ mem))
        fun visit visits => produced visit (.later walked visits)
  | left _ ih =>
      refine ih (List.forall_mem_singleton.mpr ?_) fun visit visits => produced visit (.left visits)
      exact within (given _ (List.mem_cons_self ..)) (by simp [Node.parts])
  | right walked counted _ ih =>
      refine ih (List.forall_mem_singleton.mpr ?_) fun visit visits =>
        produced visit (.right walked counted visits)
      exact within (given _ (List.mem_cons_self ..)) (by simp [Node.parts])
  | child plain kept _ ih =>
      exact ih (fun node mem => within (given _ (List.mem_cons_self ..)) mem)
        fun visit visits => produced visit (.child plain kept visits)
  | produced plain called _ ih =>
      exact ih (produced _ (.here ..) _ called) fun visit visits =>
        produced visit (.produced plain called visits)

theorem walkAll_singleton (expander : Expander) (depth : Nat) (node : Node) :
    expander.walkAll depth [node] = expander.walkNode depth node := by
  funext registry
  rw [walkAll_cons, walkAll_nil]
  simp only [Bind.bind, EStateM.bind, pure, EStateM.pure]
  cases expander.walkNode depth node registry <;> simp

/-- A walk fails as soon as the walk of a node fails that it comes to. -/
theorem Visits.fails {expander : Expander} {depth : Nat} {nodes : List Node}
    {registry after : Registry} {visit : Visit} {failure : Failure}
    (visits : expander.Visits depth nodes registry visit)
    (fails : expander.walkNode visit.depth visit.node visit.registry = .error failure after) :
    expander.walkAll depth nodes registry = .error failure after := by
  -- a node at which the walk of a row fails
  have first : ∀ {depth node rest registry},
      expander.walkNode depth node registry = .error failure after →
        expander.walkAll depth (node :: rest) registry = .error failure after := by
    intro depth node rest registry fails
    rw [walkAll_cons]
    exact Expanding.bind_eq_error.mpr (.inl fails)
  induction visits with
  | here => exact first fails
  | later walked _ ih =>
      rw [walkAll_cons]
      exact Expanding.bind_eq_error.mpr (.inr ⟨_, _, walked,
        Expanding.bind_eq_error.mpr (.inl (ih fails))⟩)
  | left _ ih =>
      have operand := ih fails
      rw [walkAll_singleton] at operand
      exact first (walkNode_left_error operand)
  | right walked counted _ ih =>
      have operand := ih fails
      rw [walkAll_singleton] at operand
      exact first (walkNode_right_error walked counted operand)
  | child plain kept _ ih =>
      refine first ?_
      rw [walkNode_kept plain kept]
      exact Expanding.bind_eq_error.mpr (.inl (ih fails))
  | produced plain called _ ih =>
      refine first ?_
      rw [walkNode_call plain called]
      exact ih fails

/-- The expansion of a program comes to a node. -/
def Reaches (expander : Expander) (program : List Node) (registry : Registry) (visit : Visit) :
    Prop :=
  expander.Visits expander.maxDepth program registry visit

/-! ## Induction on a walk -/

section Induction

variable (one : Nat → Node → Prop) {all : Nat → List Node → Prop}
  (leaf : ∀ depth kind text loc, one depth (.leaf kind text loc))
  (binop : ∀ depth left operator right loc, one depth left → one depth right →
    one depth (.binop left operator right loc))
  (bracket : ∀ depth kind children loc, (∀ less, less + 1 = depth → ∀ nodes, all less nodes) →
    all depth children → one depth (.bracket kind children loc))
  (nil : ∀ depth, all depth [])
  (cons : ∀ depth node rest, one depth node → all depth rest → all depth (node :: rest))

include leaf binop bracket nil cons

/-- What is to hold of a walk is shown part by part. What a call produced may be larger than the
    call, but it is walked with less depth. -/
theorem walk_induction (depth : Nat) (nodes : List Node) : all depth nodes := by
  have row : ∀ {depth nodes}, (∀ node ∈ nodes, one depth node) → all depth nodes := by
    intro depth nodes each
    induction nodes with
    | nil => exact nil depth
    | cons node rest ih =>
        obtain ⟨first, others⟩ := List.forall_mem_cons.mp each
        exact cons depth node rest first (ih others)
  induction depth using Nat.strongRecOn generalizing nodes with
  | ind depth ih =>
      have produced : ∀ less, less + 1 = depth → ∀ nodes, all less nodes :=
        fun less next => ih less (next ▸ Nat.lt_succ_self less)
      have each : ∀ node, one depth node := by
        intro node
        induction node using Node.parts_induction with
        | step whole parts =>
            cases whole with
            | leaf kind text loc => exact leaf depth kind text loc
            | binop left operator right loc =>
                have operands : one depth left ∧ one depth right := by
                  simpa [Node.parts] using parts
                exact binop depth left operator right loc operands.1 operands.2
            | bracket kind children loc =>
                exact bracket depth kind children loc produced (row parts)
      exact row fun node _ => each node

end Induction

end Expander

end TreeMacros
