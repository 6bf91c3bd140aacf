import TreeMacros.Expander
import TreeMacros.Proofs.Node.Decidable

/-! # Blocking and concurrent expansion

Two expanders whose macros give the same differ in one respect. If the left operand of a binary
operation does not give a single node, the blocking expander stops there, and the concurrent one
walks the right operand first. Both walks are the same up to this point, so they succeed alike, and
where they fail differently is known.
-/

namespace TreeMacros

namespace Expander

/-! ## Miscounted operands -/

/-- The walk of a node, where calls may be nested `depth` deep. -/
def walkNode (expander : Expander) (depth : Nat) (node : Node) : Expanding (List Node) :=
  expander.expandNode (expander.expandDeeper depth) node

/-- The walk of nodes in a row, where calls may be nested `depth` deep. -/
def walkAll (expander : Expander) (depth : Nat) (nodes : List Node) : Expanding (List Node) :=
  expander.expandAll (expander.expandDeeper depth) nodes

/-- The place where an expander meets a left operand that does not give a single node. -/
structure Miscount where
  /-- How many nodes the left operand gave. -/
  count : Nat
  /-- The location of the binary operation. -/
  loc : Option Span
  /-- The right operand, which is still to be walked. -/
  right : Node
  /-- How deep calls may still be nested. -/
  depth : Nat
  /-- What is registered after the left operand. -/
  registry : Registry

namespace Miscount

/-- The fault of the left operand. -/
def failure (miscount : Miscount) : Failure :=
  .fault { cause := .operandCount miscount.count, span := miscount.loc }

/-- What an expander gives that still walks the right operand. -/
def outcome (miscount : Miscount) (expander : Expander) :
    EStateM.Result Failure Registry (List Node) :=
  match expander.walkNode miscount.depth miscount.right miscount.registry with
  | .ok _ registry => .error miscount.failure registry
  | .error failure registry => .error failure registry

end Miscount

section Meeting

variable (expander : Expander) (depth : Nat) (deeper : List Node → Registry → Option Miscount)

mutual

/-- The miscounted left operand that ends the walk of a node, if one does. -/
def miscountNode? : Node → Registry → Option Miscount
  | .leaf .., _ => none
  | .binop left _ right loc, registry =>
    match expander.walkNode depth left registry with
    | .error _ _ => miscountNode? left registry
    | .ok nodes registry =>
      if nodes.length = 1 then miscountNode? right registry
      else some ⟨nodes.length, loc, right, depth, registry⟩
  | .bracket kind children loc, registry =>
    match define? (.bracket kind children loc) registry with
    | .ok false registry =>
      match expander.expandCall? registry (.bracket kind children loc) with
      | .ok (some nodes) => deeper nodes registry
      | .ok none => miscountAll? children registry
      | .error _ => none
    | _ => none

def miscountAll? : List Node → Registry → Option Miscount
  | [], _ => none
  | node :: rest, registry =>
    match expander.walkNode depth node registry with
    | .error _ _ => miscountNode? node registry
    | .ok _ registry => miscountAll? rest registry

end

end Meeting

/-- The miscounted left operand that ends the walk of what a call produced. -/
def miscountDeeper? (expander : Expander) : Nat → List Node → Registry → Option Miscount
  | 0, _, _ => none
  | depth + 1, nodes, registry =>
    expander.miscountAll? depth (miscountDeeper? expander depth) nodes registry

/-- The miscounted left operand that ends the expansion of a program. -/
def miscount? (expander : Expander) (program : List Node) (registry : Registry) :
    Option Miscount :=
  expander.miscountAll? expander.maxDepth (expander.miscountDeeper? expander.maxDepth) program
    registry

/-! ## The two walks -/

/-- A blocking and a concurrent expander whose macros give the same. -/
structure Counterparts (patient busy : Expander) : Prop where
  blocking : patient.pacing = .blocking
  concurrent : busy.pacing = .concurrent
  services : patient.services = busy.services
  maxDepth : patient.maxDepth = busy.maxDepth
  run : ∀ call, patient.executor.run call patient.services = busy.executor.run call busy.services

/-- How the walks of both go, when the blocking one is ended by `met` or by nothing of that kind. -/
structure Parallel (busy : Expander) (met : Option Miscount)
    (waiting meanwhile : EStateM.Result Failure Registry (List Node)) : Prop where
  same : met = none → meanwhile = waiting
  stopped : ∀ miscount, met = some miscount →
    waiting = .error miscount.failure miscount.registry ∧ meanwhile = miscount.outcome busy

variable {patient busy : Expander}

theorem Counterparts.expandCall? (counterparts : Counterparts patient busy) (registry : Registry)
    (node : Node) : busy.expandCall? registry node = patient.expandCall? registry node := by
  unfold Expander.expandCall?
  cases node.call? registry with
  | none => rfl
  | some call =>
      obtain ⟨name, entry, arguments⟩ := call
      have sameRun : busy.runEntry registry name arguments entry =
          patient.runEntry registry name arguments entry := by
        cases entry with
        | native run => simp only [runEntry, counterparts.services]
        | defined definition => exact (counterparts.run _).symm
      simp only [sameRun]

theorem Miscount.outcome_eq_error (miscount : Miscount) (expander : Expander) :
    ∃ failure registry, miscount.outcome expander = .error failure registry := by
  unfold Miscount.outcome
  split <;> exact ⟨_, _, rfl⟩

namespace Parallel

theorem refl (busy : Expander) (result : EStateM.Result Failure Registry (List Node)) :
    Parallel busy none result result :=
  ⟨fun _ => rfl, nofun⟩

/-- What would come next does not matter once a miscounted operand was met. -/
theorem halt {miscount : Miscount} {x y : Expanding (List Node)} {registry : Registry}
    (waits : x registry = .error miscount.failure miscount.registry)
    (goesOn : y registry = miscount.outcome busy) (f g : List Node → Expanding (List Node)) :
    Parallel busy (some miscount) ((x >>= f) registry) ((y >>= g) registry) := by
  obtain ⟨failure, registered, fails⟩ := miscount.outcome_eq_error busy
  have waiting : (x >>= f) registry = .error miscount.failure miscount.registry := by
    simp only [Bind.bind, EStateM.bind, waits]
  have meanwhile : (y >>= g) registry = miscount.outcome busy := by
    simp only [Bind.bind, EStateM.bind, goesOn, fails]
  refine ⟨nofun, ?_⟩
  rintro _ ⟨⟩
  exact ⟨waiting, meanwhile⟩

/-- Both go on after a part that they walk alike. -/
theorem bind {met : Option Miscount} {after : List Node → Registry → Option Miscount}
    {x y : Expanding (List Node)} {f g : List Node → Expanding (List Node)} {registry : Registry}
    (first : Parallel busy met (x registry) (y registry))
    (next : ∀ nodes registered,
      Parallel busy (after nodes registered) (f nodes registered) (g nodes registered)) :
    Parallel busy
      (match x registry with
        | .error _ _ => met
        | .ok nodes registered => after nodes registered)
      ((x >>= f) registry) ((y >>= g) registry) := by
  cases met with
  | none =>
      simp only [Bind.bind, EStateM.bind, first.same rfl]
      cases x registry with
      | ok nodes registered => exact next nodes registered
      | error failure registered => exact refl busy _
  | some miscount =>
      obtain ⟨waits, goesOn⟩ := first.stopped miscount rfl
      simp only [waits]
      exact halt waits goesOn f g

/-- Both go on in the same way. -/
theorem followedBy {met : Option Miscount} {x y : Expanding (List Node)} {registry : Registry}
    (first : Parallel busy met (x registry) (y registry))
    (next : List Node → Expanding (List Node)) :
    Parallel busy met ((x >>= next) registry) ((y >>= next) registry) := by
  cases met with
  | none =>
      simp only [Bind.bind, EStateM.bind, first.same rfl]
      exact refl busy _
  | some miscount =>
      obtain ⟨waits, goesOn⟩ := first.stopped miscount rfl
      exact halt waits goesOn next next

end Parallel

/-! ## The steps of a walk -/

section Steps

variable (expander : Expander) (depth : Nat)

theorem walkNode_leaf (kind : LeafKind) (text : String) (loc : Option Span) :
    expander.walkNode depth (.leaf kind text loc) = pure [.leaf kind text loc] := by
  rw [walkNode, expandNode]

theorem walkNode_blocking {expander : Expander} (blocking : expander.pacing = .blocking)
    (left : Node) (operator : String) (right : Node) (loc : Option Span) :
    expander.walkNode depth (.binop left operator right loc) =
      expander.walkNode depth left >>= fun lefts => single loc lefts >>= fun left =>
        expander.walkNode depth right >>= fun rights => single loc rights >>= fun right =>
          pure [.binop left operator right loc] := by
  simp only [walkNode]
  rw [expandNode, blocking]

theorem walkNode_concurrent {expander : Expander} (concurrent : expander.pacing = .concurrent)
    (left : Node) (operator : String) (right : Node) (loc : Option Span) :
    expander.walkNode depth (.binop left operator right loc) =
      expander.walkNode depth left >>= fun lefts =>
        expander.walkNode depth right >>= fun rights => single loc lefts >>= fun left =>
          single loc rights >>= fun right => pure [.binop left operator right loc] := by
  simp only [walkNode]
  rw [expandNode, concurrent]

theorem walkNode_bracket (kind : Bracket) (children : List Node) (loc : Option Span)
    (registry : Registry) :
    expander.walkNode depth (.bracket kind children loc) registry =
      match define? (.bracket kind children loc) registry with
      | .error failure registered => .error failure registered
      | .ok true registered => .ok [] registered
      | .ok false registered =>
        match expander.expandCall? registered (.bracket kind children loc) with
        | .error failure => .error failure registered
        | .ok (some nodes) => expander.expandDeeper depth loc nodes registered
        | .ok none =>
          (expander.walkAll depth children >>= fun children =>
            pure [.bracket kind children loc]) registered := by
  rw [walkNode, expandNode]
  simp only [Bind.bind, EStateM.bind]
  cases define? (.bracket kind children loc) registry with
  | error failure registered => rfl
  | ok defines registered =>
      cases defines with
      | true => rfl
      | false =>
          simp only [Bool.false_eq_true, if_false]
          change (match expander.expandCall? registered (.bracket kind children loc) with
            | .error failure => throw failure
            | .ok (some nodes) => expander.expandDeeper depth loc nodes
            | .ok none => expander.expandAll (expander.expandDeeper depth) children >>=
                fun children => pure [.bracket kind children loc]) registered = _
          cases expander.expandCall? registered (.bracket kind children loc) with
          | error failure => rfl
          | ok given => cases given <;> rfl

theorem walkAll_nil : expander.walkAll depth [] = pure [] := by
  rw [walkAll, expandAll]

theorem walkAll_cons (node : Node) (rest : List Node) :
    expander.walkAll depth (node :: rest) =
      expander.walkNode depth node >>= fun nodes =>
        expander.walkAll depth rest >>= fun more => pure (nodes ++ more) := by
  simp only [walkAll, walkNode]
  rw [expandAll]

end Steps

theorem single_miscounted {nodes : List Node} (miscounted : nodes.length ≠ 1) (loc : Option Span)
    (registry : Registry) :
    single loc nodes registry =
      .error (.fault { cause := .operandCount nodes.length, span := loc }) registry := by
  match nodes, miscounted with
  | [], _ => rfl
  | [_], miscounted => exact absurd rfl miscounted
  | _ :: _ :: _, _ => rfl

/-- After the left operand: with a single node both walk the right operand alike, else the walks
    part here. -/
theorem parallel_operands {depth : Nat} {right : Node} {met : Registry → Option Miscount}
    (walks : ∀ registry, Parallel busy (met registry) (patient.walkNode depth right registry)
      (busy.walkNode depth right registry))
    (operator : String) (loc : Option Span) (lefts : List Node) (registry : Registry) :
    Parallel busy
      (if lefts.length = 1 then met registry
        else some ⟨lefts.length, loc, right, depth, registry⟩)
      ((single loc lefts >>= fun left => patient.walkNode depth right >>= fun rights =>
        single loc rights >>= fun right => pure [.binop left operator right loc]) registry)
      ((busy.walkNode depth right >>= fun rights => single loc lefts >>= fun left =>
        single loc rights >>= fun right => pure [.binop left operator right loc]) registry) := by
  by_cases counted : lefts.length = 1
  · obtain ⟨left, rfl⟩ := List.length_eq_one_iff.mp counted
    rw [if_pos counted]
    -- To check a single node changes nothing, so it may as well come after the right operand.
    exact (walks registry).followedBy fun rights =>
      single loc rights >>= fun right => pure [.binop left operator right loc]
  · rw [if_neg counted]
    refine ⟨nofun, ?_⟩
    rintro _ ⟨⟩
    have stops := single_miscounted counted loc
    constructor
    · simp only [Bind.bind, EStateM.bind, stops, Miscount.failure]
    · simp only [Bind.bind, EStateM.bind, Miscount.outcome, Miscount.failure]
      cases busy.walkNode depth right registry with
      | ok rights registered => simp only [stops]
      | error failure registered => rfl

section Walks

variable {depth : Nat}

mutual

theorem parallel_node (counterparts : Counterparts patient busy)
    (deeper : ∀ loc nodes registry, Parallel busy (patient.miscountDeeper? depth nodes registry)
      (patient.expandDeeper depth loc nodes registry) (busy.expandDeeper depth loc nodes registry))
    (node : Node) (registry : Registry) :
    Parallel busy
      (patient.miscountNode? depth (patient.miscountDeeper? depth) node registry)
      (patient.walkNode depth node registry) (busy.walkNode depth node registry) := by
  cases node with
  | leaf kind text loc =>
      rw [miscountNode?, walkNode_leaf, walkNode_leaf]
      exact Parallel.refl busy _
  | binop left operator right loc =>
      rw [miscountNode?, walkNode_blocking depth counterparts.blocking,
        walkNode_concurrent depth counterparts.concurrent]
      exact (parallel_node counterparts deeper left registry).bind
        (parallel_operands (parallel_node counterparts deeper right) operator loc)
  | bracket kind children loc =>
      rw [miscountNode?, walkNode_bracket, walkNode_bracket]
      cases define? (.bracket kind children loc) registry with
      | error failure registered => exact Parallel.refl busy _
      | ok defines registered =>
          cases defines with
          | true => exact Parallel.refl busy _
          | false =>
              simp only [counterparts.expandCall?]
              cases patient.expandCall? registered (.bracket kind children loc) with
              | error failure => exact Parallel.refl busy _
              | ok given =>
                  cases given with
                  | some nodes => exact deeper loc nodes registered
                  | none =>
                      exact (parallel_all counterparts deeper children registered).followedBy
                        fun children => pure [.bracket kind children loc]
termination_by sizeOf node

theorem parallel_all (counterparts : Counterparts patient busy)
    (deeper : ∀ loc nodes registry, Parallel busy (patient.miscountDeeper? depth nodes registry)
      (patient.expandDeeper depth loc nodes registry) (busy.expandDeeper depth loc nodes registry))
    (nodes : List Node) (registry : Registry) :
    Parallel busy
      (patient.miscountAll? depth (patient.miscountDeeper? depth) nodes registry)
      (patient.walkAll depth nodes registry) (busy.walkAll depth nodes registry) := by
  cases nodes with
  | nil =>
      rw [miscountAll?, walkAll_nil, walkAll_nil]
      exact Parallel.refl busy _
  | cons node rest =>
      rw [miscountAll?, walkAll_cons, walkAll_cons]
      exact (parallel_node counterparts deeper node registry).bind fun nodes registered =>
        (parallel_all counterparts deeper rest registered).followedBy fun more =>
          pure (nodes ++ more)
termination_by sizeOf nodes

end

end Walks

theorem parallel_deeper (counterparts : Counterparts patient busy) (depth : Nat)
    (loc : Option Span) (nodes : List Node) (registry : Registry) :
    Parallel busy (patient.miscountDeeper? depth nodes registry)
      (patient.expandDeeper depth loc nodes registry)
      (busy.expandDeeper depth loc nodes registry) := by
  induction depth generalizing loc nodes registry with
  | zero =>
      simp only [miscountDeeper?, expandDeeper, counterparts.maxDepth]
      exact Parallel.refl busy _
  | succ depth ih => exact parallel_all counterparts ih nodes registry

theorem parallel_program (counterparts : Counterparts patient busy) (program : List Node)
    (registry : Registry) :
    Parallel busy (patient.miscount? program registry) (patient.expandProgram program registry)
      (busy.expandProgram program registry) := by
  have walks := parallel_all counterparts (parallel_deeper counterparts patient.maxDepth) program
    registry
  simp only [walkAll] at walks
  simp only [miscount?, expandProgram, ← counterparts.maxDepth]
  exact walks

/-! ## Agreement -/

/-- The two expanders succeed on the same programs, with the same nodes and registrations. -/
theorem successes_agree (counterparts : Counterparts patient busy) (program : List Node)
    (registry : Registry) (nodes : List Node) (registered : Registry) :
    patient.expandProgram program registry = .ok nodes registered ↔
      busy.expandProgram program registry = .ok nodes registered := by
  have walks := parallel_program counterparts program registry
  cases met : patient.miscount? program registry with
  | none => rw [walks.same met]
  | some miscount =>
      obtain ⟨waits, goesOn⟩ := walks.stopped miscount met
      obtain ⟨failure, other, fails⟩ := miscount.outcome_eq_error busy
      rw [waits, goesOn, fails]
      exact ⟨nofun, nofun⟩

/-- An expander whose macros all give the number one. -/
def ones (pacing : Pacing) : Expander where
  executor := { name := "ones", run := fun _ _ => .ok (.node (.number "1")) }
  pacing := pacing

theorem counterparts_ones : Counterparts (ones .blocking) (ones .concurrent) :=
  ⟨rfl, rfl, rfl, rfl, fun _ => rfl⟩

/-- The definition of a macro without parameters. -/
def defining (name : Node) : Node :=
  .curly [.ident "def", .ident "macro", name, .square [], .number "1"]

theorem successes_agree_ones :
    Counterparts (ones .blocking) (ones .concurrent) ∧
    ∃ registered, (ones .concurrent).expandProgram
      [defining (.ident "m"), .binary (.ident "x") "=" (.curly [.ident "m"])] {} =
        .ok [.binary (.ident "x") "=" (.number "1")] registered :=
  ⟨counterparts_ones, _, (successes_agree counterparts_ones _ _ _ _).mp rfl⟩

/-- What is reported of a failure: its family, its wording and its place. -/
def report : Failure → Except Endless (FaultKind × String × Option Span)
  | .fault fault => .ok (fault.kind, fault.message, fault.span)
  | .endless what => .error what

/-- Whether it makes no difference that the right operand is still walked: it registers nothing,
    and if it fails, then like the left operand. -/
def Miscount.IsHarmless (miscount : Miscount) (expander : Expander) : Prop :=
  match expander.walkNode miscount.depth miscount.right miscount.registry with
  | .ok _ registered => registered = miscount.registry
  | .error failure registered =>
    report failure = report miscount.failure ∧ registered = miscount.registry

theorem Miscount.isHarmless_iff (miscount : Miscount) (expander : Expander) :
    miscount.IsHarmless expander ↔
      ∃ failure, miscount.outcome expander = .error failure miscount.registry ∧
        report failure = report miscount.failure := by
  unfold Miscount.IsHarmless Miscount.outcome
  cases expander.walkNode miscount.depth miscount.right miscount.registry with
  | ok rights registered =>
      constructor
      · rintro rfl
        exact ⟨miscount.failure, rfl, rfl⟩
      · rintro ⟨other, ⟨⟩, -⟩
        rfl
  | error failure registered =>
      constructor
      · rintro ⟨alike, rfl⟩
        exact ⟨failure, rfl, alike⟩
      · rintro ⟨other, ⟨⟩, alike⟩
        exact ⟨alike, rfl⟩

/-- The two expanders fail alike exactly if the blocking one was not stopped by a miscounted left
    operand whose right operand makes a difference. If it was, then the concurrent one fails with
    what this right operand registers, and with its failure if it has one. -/
theorem failures_agree_iff (counterparts : Counterparts patient busy) (program : List Node)
    (registry : Registry) {failure : Failure} {registered : Registry}
    (fails : patient.expandProgram program registry = .error failure registered) :
    ((∃ other, busy.expandProgram program registry = .error other registered ∧
        report other = report failure) ↔
      ∀ miscount, patient.miscount? program registry = some miscount →
        miscount.IsHarmless busy) ∧
    (patient.miscount? program registry = none →
      busy.expandProgram program registry = .error failure registered) ∧
    (∀ miscount, patient.miscount? program registry = some miscount →
      failure = miscount.failure ∧ registered = miscount.registry ∧
        busy.expandProgram program registry = miscount.outcome busy) := by
  have walks := parallel_program counterparts program registry
  cases met : patient.miscount? program registry with
  | none =>
      have same := (walks.same met).trans fails
      exact ⟨⟨fun _ => nofun, fun _ => ⟨failure, same, rfl⟩⟩, fun _ => same, nofun⟩
  | some miscount =>
      obtain ⟨waits, goesOn⟩ := walks.stopped miscount met
      obtain ⟨rfl, rfl⟩ : failure = miscount.failure ∧ registered = miscount.registry := by
        simpa using fails.symm.trans waits
      refine ⟨?_, nofun, ?_⟩
      · rw [goesOn, ← Miscount.isHarmless_iff]
        simp
      · rintro _ ⟨⟩
        exact ⟨rfl, rfl, goesOn⟩

/-- An operand that is a definition, beside a name. -/
theorem failures_agree_ones :
    ∃ registered, (ones .blocking).expandProgram
        [.binary (defining (.ident "m")) "+" (.ident "x")] {} =
          .error (.fault { cause := .operandCount 0 }) registered ∧
      ∃ other, (ones .concurrent).expandProgram
        [.binary (defining (.ident "m")) "+" (.ident "x")] {} = .error other registered ∧
          report other = report (.fault { cause := .operandCount 0 }) :=
  ⟨_, rfl, (failures_agree_iff counterparts_ones _ _ rfl).1.mpr (by rintro _ ⟨⟩; rfl)⟩

/-- An operand that is a definition, beside one that is malformed. -/
theorem failures_differ :
    Counterparts (ones .blocking) (ones .concurrent) ∧
    ∃ registered, (ones .blocking).expandProgram
        [.binary (defining (.ident "m")) "+" (defining (.number "5"))] {} =
          .error (.fault { cause := .operandCount 0 }) registered ∧
      (ones .concurrent).expandProgram
        [.binary (defining (.ident "m")) "+" (defining (.number "5"))] {} =
          .error (.fault { cause := .definitionForm }) registered ∧
      report (.fault { cause := .operandCount 0 }) ≠ report (.fault { cause := .definitionForm }) :=
  ⟨counterparts_ones, _, rfl, rfl, by decide⟩

end Expander

end TreeMacros
