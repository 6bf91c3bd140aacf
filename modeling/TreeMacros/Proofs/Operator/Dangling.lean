import TreeMacros.Proofs.Node.Parts
import TreeMacros.Proofs.Operator.Balance

/-! # Dangling operators

An operator dangles if it does not stand between two operands. Grouping does not look for such
operators. All statements of a list share one stack of operands, so an operator may take the results
of earlier statements. What grouping rejects is a list whose operands run out: one with a beginning,
up to the end of a statement, that has no more operands than operators.
-/

namespace TreeMacros

open Grouping

namespace Grouping

/-- Operands run out at the end of a statement, in a list or inside of one of its brackets. -/
inductive RunsOut : List Node → Prop
  | here {before later : List Node} (nonempty : before ≠ []) (ends : EndsStatement before later)
      (few : surplus before ≤ 0) : RunsOut (before ++ later)
  | inside {nodes children : List Node} {kind : Bracket} {loc : Option Span}
      (mem : .bracket kind children loc ∈ nodes) (inner : RunsOut children) : RunsOut nodes

/-- Some operator does not stand between two operands, in a list or within one of its brackets. -/
inductive Dangles : List Node → Prop
  | here {nodes : List Node} (unpaired : ¬IsPaired nodes) : Dangles nodes
  | inside {nodes children : List Node} {kind : Bracket} {loc : Option Span}
      (mem : .bracket kind children loc ∈ nodes) (inner : Dangles children) : Dangles nodes

variable {nodes rest : List Node} {node : Node} {balance : Int} {after : Bool}

/-! ## Runs of grouping -/

/-- What holds of a result if there is one, and of the fault otherwise. -/
def Yields {α : Type} (success : α → Prop) (failure : Fault → Prop) : Except Fault α → Prop
  | .ok result => success result
  | .error fault => failure fault

section Yields

variable {α β : Type} {success success' : α → Prop} {failure failure' : Fault → Prop}
  {attempt : Except Fault α}

theorem Yields.mono (yields : Yields success failure attempt)
    (succeeds : ∀ result, success result → success' result)
    (fails : ∀ fault, failure fault → failure' fault) : Yields success' failure' attempt := by
  cases attempt with
  | ok result => exact succeeds result yields
  | error fault => exact fails fault yields

theorem Yields.bind {next : α → Except Fault β} {final : β → Prop}
    (yields : Yields success failure attempt)
    (continues : ∀ result, success result → Yields final failure (next result)) :
    Yields final failure (attempt >>= next) := by
  cases attempt with
  | ok result => exact continues result yields
  | error fault => exact yields

end Yields

section Stacks

variable (operands : List Node) (waiting : List PendingOperator)

theorem applyAll_yields :
    Yields (fun results => results.length + waiting.length = operands.length ∧
        (0 < operands.length + waiting.length → 0 < results.length))
      (fun fault => operands.length ≤ waiting.length ∧ fault.kind = .shape)
      (applyAll operands waiting) := by
  induction waiting generalizing operands with
  | nil =>
      rw [applyAll_nil]
      exact ⟨rfl, id⟩
  | cons operator waiting ih =>
      rcases operands with _ | ⟨right, _ | ⟨left, operands⟩⟩
      · exact ⟨Nat.zero_le _, rfl⟩
      · exact ⟨Nat.le_add_left 1 _, rfl⟩
      · refine (ih (operator.apply left right :: operands)).mono ?_ ?_
        · rintro results ⟨lengths, positive⟩
          simp only [List.length_cons] at lengths positive ⊢
          omega
        · rintro fault ⟨few, shape⟩
          simp only [List.length_cons] at few ⊢
          exact ⟨by omega, shape⟩

theorem applyPreceding_yields (next : OperatorInfo) :
    Yields (fun kept => kept.1.length + waiting.length = operands.length + kept.2.length)
      (fun fault => operands.length ≤ waiting.length ∧ fault.kind = .shape)
      (applyPreceding next operands waiting) := by
  induction waiting generalizing operands with
  | nil => rfl
  | cons operator waiting ih =>
      rw [applyPreceding.eq_def]
      dsimp only
      split
      · rcases operands with _ | ⟨right, _ | ⟨left, operands⟩⟩
        · exact ⟨Nat.zero_le _, rfl⟩
        · exact ⟨Nat.le_add_left 1 _, rfl⟩
        · refine (ih (operator.apply left right :: operands)).mono ?_ ?_
          · intro kept lengths
            simp only [List.length_cons] at lengths ⊢
            omega
          · rintro fault ⟨few, shape⟩
            simp only [List.length_cons] at few ⊢
            exact ⟨by omega, shape⟩
      · rfl

end Stacks

/-- What is known of the results of a list. -/
structure Succeeds (balance : Int) (after : Bool) (nodes results : List Node) : Prop where
  length_eq : results.length = balance + surplus nodes
  covered : ¬Overdrawn balance after nodes
  grouped : ∀ node ∈ nodes, ∃ node', node.grouped = .ok node'

/-- What a fault of a list comes from. -/
inductive FailsWith (balance : Int) (after : Bool) (nodes : List Node) (fault : Fault) : Prop
  | overdrawn (lacks : Overdrawn balance after nodes) (shape : fault.kind = .shape)
  | inside (node : Node) (mem : node ∈ nodes) (failed : node.grouped = .error fault)

section Steps

variable {results : List Node} {fault : Fault}

theorem Succeeds.cons (known : Succeeds (balance + weight node) (!node.isOperator) rest results)
    (covered : node.isOperator = false → after = true → 0 < balance)
    (grouped : ∃ node', node.grouped = .ok node') :
    Succeeds balance after (node :: rest) results := by
  refine ⟨?_, ?_, List.forall_mem_cons.mpr ⟨grouped, known.grouped⟩⟩
  · rw [known.length_eq, surplus_cons]
    omega
  · rintro (⟨afterOperand, operand, few⟩ | later)
    · have enough := covered operand afterOperand
      omega
    · exact known.covered later

theorem FailsWith.cons
    (known : FailsWith (balance + weight node) (!node.isOperator) rest fault) :
    FailsWith balance after (node :: rest) fault := by
  cases known with
  | overdrawn lacks shape => exact .overdrawn (.inr lacks) shape
  | inside inner mem failed => exact .inside inner (List.mem_cons_of_mem node mem) failed

end Steps

theorem grouped_operator (operator : PendingOperator) :
    operator.node.grouped = .ok operator.node := by
  rw [PendingOperator.node, Node.grouped]
  intro kind children loc same
  cases same

/-- How many operands and operators wait decides what becomes of the rest of a list. -/
def IsDecided (rest : List Node) : Prop :=
  ∀ (operands : List Node) (waiting : List PendingOperator) (after : Bool) (balance : Int),
    balance = operands.length - waiting.length →
    (0 < operands.length + waiting.length ∨ after = false ∧ rest ≠ []) →
    Yields (Succeeds balance after rest) (FailsWith balance after rest)
      (groupFrom operands waiting after rest)

theorem isDecided_nil : IsDecided [] := by
  intro operands waiting after balance lengths started
  rw [groupFrom]
  refine ((applyAll_yields operands waiting).mono (fun _ known => known) ?_).bind ?_
  · rintro fault ⟨few, shape⟩
    exact .overdrawn (show balance ≤ 0 by omega) shape
  · rintro results ⟨count, nonempty⟩
    have positive := nonempty (started.resolve_right fun fresh => fresh.2 rfl)
    refine ⟨?_, ?_, ?_⟩
    · rw [List.length_reverse, surplus_nil]
      omega
    · show ¬balance ≤ 0
      omega
    · intro next mem
      cases mem

theorem IsDecided.operator (decided : IsDecided rest) (operator : PendingOperator) :
    IsDecided (operator.node :: rest) := by
  intro operands waiting after balance lengths _
  have lighter : weight operator.node = -1 := weight_operator rfl
  rw [groupFrom_operator]
  refine ((applyPreceding_yields operands waiting operator.info).mono
    (fun _ known => known) ?_).bind ?_
  · rintro fault ⟨few, shape⟩
    -- the operands lack already, though the statement has not come to its end
    exact .overdrawn (.inr (overdrawn_of_le (by omega) fun _ => by omega)) shape
  · rintro ⟨operands', waiting'⟩ count
    have later := decided operands' (operator :: waiting') false (balance + weight operator.node)
      (by simp only [List.length_cons] at count ⊢; omega)
      (.inl (Nat.add_pos_right _ (Nat.succ_pos _)))
    exact later.mono (fun _ known => known.cons nofun ⟨_, grouped_operator _⟩)
      fun _ known => known.cons

/-- The operand goes on with a statement or begins one. -/
theorem IsDecided.operand_open (decided : IsDecided rest) (operand : node.isOperator = false)
    {operands : List Node} {waiting : List PendingOperator}
    (lengths : balance = operands.length - waiting.length) (covered : after = true → 0 < balance) :
    Yields (Succeeds balance after (node :: rest)) (FailsWith balance after (node :: rest))
      (groupFrom operands waiting false (node :: rest)) := by
  have heavier := weight_operand operand
  rw [groupFrom_operand _ _ operand]
  cases grouped : node.grouped with
  | error fault => exact .inside node (List.mem_cons_self ..) grouped
  | ok node' =>
      have later := decided (node' :: operands) waiting true (balance + weight node)
        (by simp only [List.length_cons]; omega) (.inl (Nat.add_pos_left (Nat.succ_pos _) _))
      have turns : true = !node.isOperator := by rw [operand]; rfl
      exact later.mono (fun _ known => (turns ▸ known).cons (fun _ => covered) ⟨_, grouped⟩)
        fun _ known => (turns ▸ known).cons

theorem IsDecided.operand (decided : IsDecided rest) (operand : node.isOperator = false) :
    IsDecided (node :: rest) := by
  intro operands waiting after balance lengths started
  cases after with
  | false => exact decided.operand_open operand lengths nofun
  | true =>
      rw [groupFrom_settle _ _ (by rintro _ ⟨⟩; exact operand)]
      refine ((applyAll_yields operands waiting).mono (fun _ known => known) ?_).bind ?_
      · rintro fault ⟨few, shape⟩
        exact .overdrawn (.inl ⟨rfl, operand, by omega⟩) shape
      · rintro results ⟨count, nonempty⟩
        have positive := nonempty (started.resolve_right nofun)
        have lengths' : balance = results.length - ([] : List PendingOperator).length := by
          simp only [List.length_nil]
          omega
        exact decided.operand_open operand lengths' fun _ => by omega

theorem isDecided (nodes : List Node) : IsDecided nodes := by
  induction nodes with
  | nil => exact isDecided_nil
  | cons node rest ih =>
      cases kind : node.isOperator with
      | true =>
          obtain ⟨operator, rfl⟩ := isOperator_iff.mp kind
          exact ih.operator operator
      | false => exact ih.operand kind

/-! ## Whole lists -/

theorem groupOperators_eq (nodes : List Node) :
    groupOperators nodes = groupFrom [] [] false nodes := by
  rw [groupOperators]
  cases nodes with
  | nil => rw [groupFrom, groupFrom]
  | cons node rest =>
      cases kind : node.isOperator with
      | true =>
          obtain ⟨operator, rfl⟩ := isOperator_iff.mp kind
          rw [groupFrom_operator, groupFrom_operator]
      | false =>
          rw [groupFrom_settle _ _ (by rintro _ ⟨⟩; exact kind), applyAll_nil]
          rfl

theorem groupOperators_yields (nonempty : nodes ≠ []) :
    Yields (Succeeds 0 false nodes) (FailsWith 0 false nodes) (groupOperators nodes) := by
  rw [groupOperators_eq]
  exact isDecided nodes [] [] false 0 rfl (.inr ⟨rfl, nonempty⟩)

theorem grouped_bracket (kind : Bracket) (children : List Node) (loc : Option Span) :
    (Node.bracket kind children loc).grouped =
      groupOperators children >>= fun children => .ok (.bracket kind children loc) := by
  rw [Node.grouped, groupOperators]
  rfl

theorem grouped_eq_error {fault : Fault} (failed : node.grouped = .error fault) :
    ∃ kind children loc, node = .bracket kind children loc ∧
      groupOperators children = .error fault := by
  cases node with
  | leaf | binop =>
      rw [Node.grouped] at failed
      · cases failed
      · intro kind children loc same
        cases same
  | bracket kind children loc =>
      rw [grouped_bracket] at failed
      refine ⟨kind, children, loc, rfl, ?_⟩
      cases inner : groupOperators children with
      | ok results => simp [inner, Bind.bind, Except.bind] at failed
      | error fault' =>
          rw [inner] at failed
          exact congrArg Except.error (Except.error.inj failed)

/-- Where grouping fails, operands run out. -/
theorem runsOut_of_error {fault : Fault} (failed : groupOperators nodes = .error fault) :
    RunsOut nodes ∧ fault.kind = .shape := by
  -- nodes fail as children of a bracket do
  suffices ∀ whole : Node, ∀ fault, groupOperators whole.parts = .error fault →
      RunsOut whole.parts ∧ fault.kind = .shape from this (.bracket .square nodes none) fault failed
  intro whole
  induction whole using Node.parts_induction with
  | step whole ih =>
      intro fault failed
      have nonempty : whole.parts ≠ [] := by
        intro empty
        rw [empty, groupOperators, groupFrom, applyAll_nil] at failed
        cases failed
      have yields := groupOperators_yields nonempty
      rw [failed] at yields
      cases yields with
      | overdrawn lacks shape =>
          obtain ⟨before, later, split, nonempty, ends, few⟩ :=
            (overdrawn_start_iff nonempty).mp lacks
          exact ⟨split ▸ .here nonempty ends few, shape⟩
      | inside part mem failed =>
          obtain ⟨kind, children, loc, rfl, failed'⟩ := grouped_eq_error failed
          obtain ⟨inner, shape⟩ := ih _ mem fault failed'
          exact ⟨.inside mem inner, shape⟩

/-- Where operands run out, grouping fails. -/
theorem RunsOut.exists_error (runsOut : RunsOut nodes) :
    ∃ fault, groupOperators nodes = .error fault := by
  induction runsOut with
  | @here before later nonempty ends few =>
      have whole : before ++ later ≠ [] := List.append_ne_nil_of_left_ne_nil nonempty later
      have yields := groupOperators_yields whole
      cases grouped : groupOperators (before ++ later) with
      | error fault => exact ⟨fault, rfl⟩
      | ok results =>
          rw [grouped] at yields
          exact (yields.covered <| (overdrawn_start_iff whole).mpr
            ⟨before, later, rfl, nonempty, ends, few⟩).elim
  | @inside nodes children kind loc mem inner ih =>
      have yields := groupOperators_yields (List.ne_nil_of_mem mem)
      cases grouped : groupOperators nodes with
      | error fault => exact ⟨fault, rfl⟩
      | ok results =>
          rw [grouped] at yields
          obtain ⟨node', groups⟩ := yields.grouped _ mem
          obtain ⟨fault, failed⟩ := ih
          rw [grouped_bracket, failed] at groups
          cases groups

theorem RunsOut.dangles (runsOut : RunsOut nodes) : Dangles nodes := by
  induction runsOut with
  | @here before later nonempty ends few =>
      refine .here fun paired => (surplus_lt_iff before).2.mp ?_ (paired.of_append ends)
      have positive := statementCount_pos nonempty
      omega
  | inside mem _ ih => exact .inside mem ih

/-- Where a list holds one statement, an operator that dangles is enough. -/
theorem runsOut_of_single (single : statementCount nodes = 1) (unpaired : ¬IsPaired nodes) :
    RunsOut nodes := by
  have nonempty : nodes ≠ [] := by
    rintro rfl
    cases single
  have less := (surplus_lt_iff nodes).2.mpr unpaired
  rw [← List.append_nil nodes]
  exact .here nonempty nofun (by omega)

theorem length_of_ok {results : List Node} (grouped : groupOperators nodes = .ok results) :
    results.length = surplus nodes := by
  cases nodes with
  | nil =>
      rw [groupOperators, groupFrom, applyAll_nil] at grouped
      cases grouped
      rfl
  | cons node rest =>
      have yields := groupOperators_yields (List.cons_ne_nil node rest)
      rw [grouped] at yields
      rw [yields.length_eq, Int.zero_add]

end Grouping

/-- Grouping fails exactly if operands run out, and always with a shape error. That takes an
    operator that dangles, and in a list of one statement it takes no more. Where an operator
    dangles and grouping succeeds, statements are joined: fewer nodes come out. -/
theorem groupOperators_dangling (nodes : List Node) :
    ((∃ fault, groupOperators nodes = .error fault) ↔ RunsOut nodes) ∧
      (∀ fault, groupOperators nodes = .error fault → fault.kind = .shape) ∧
      (RunsOut nodes → Dangles nodes) ∧
      (statementCount nodes = 1 → ¬IsPaired nodes → RunsOut nodes) ∧
      ∀ results, groupOperators nodes = .ok results →
        results.length = surplus nodes ∧ results.length ≤ statementCount nodes ∧
          (results.length < statementCount nodes ↔ ¬IsPaired nodes) := by
  refine ⟨⟨fun ⟨_, failed⟩ => (runsOut_of_error failed).1, RunsOut.exists_error⟩,
    fun _ failed => (runsOut_of_error failed).2, RunsOut.dangles, runsOut_of_single, ?_⟩
  intro results grouped
  have count := length_of_ok grouped
  obtain ⟨most, less⟩ := surplus_lt_iff nodes
  refine ⟨count, by omega, ?_⟩
  rw [← less]
  omega

/-- Nothing is there for the operator to take but the operand before it. -/
theorem groupOperators_dangling_alone :
    let nodes : List Node := [.ident "a", PendingOperator.node ⟨"=", none⟩]
    ¬IsPaired nodes ∧ ∃ fault, groupOperators nodes = .error fault ∧ fault.kind = .shape := by
  intro nodes
  have unpaired : ¬IsPaired nodes := fun paired => nomatch paired.last _ rfl
  obtain ⟨rejects, shape, -, single, -⟩ := groupOperators_dangling nodes
  obtain ⟨fault, failed⟩ := rejects.mpr (single rfl unpaired)
  exact ⟨unpaired, fault, failed, shape fault failed⟩

/-- An operator at the end takes the statement before its own. -/
theorem groupOperators_joins :
    let nodes : List Node := [.ident "a", .ident "b", PendingOperator.node ⟨"+", none⟩]
    Dangles nodes ∧ statementCount nodes = 2 ∧
      groupOperators nodes = .ok [.binary (.ident "a") "+" (.ident "b")] := by
  intro nodes
  have unpaired : ¬IsPaired nodes := fun paired => nomatch paired.last _ rfl
  exact ⟨.here unpaired, rfl, rfl⟩

end TreeMacros
