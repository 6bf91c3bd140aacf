import TreeMacros.Proofs.Evaluation.DepthLimit
import TreeMacros.Proofs.Evaluation.Isolation
import TreeMacros.Proofs.Evaluation.Naming
import TreeMacros.Proofs.Evaluation.Template

/-! # Calling macros by name

A body calls a registered macro by its name. The argument nodes are quoted and become values, the
callee runs in a scope of its own, and what it produces becomes a value and then nodes again. All of
this can be left out: the callee, run on the nodes directly, ends in the same way. The call takes
two levels of depth, one for the body around it and one for the call itself.
-/

namespace TreeMacros

namespace Node

/-- Names that mean something else at the head of a form: those of the special forms and of the
    constants. -/
def reservedNames : List String :=
  ["if", "do", "when", "while", "for", "fun", "return", "quote", "true", "false", "null"]

theorem ne_of_free {name reserved : String} (free : name ∉ reservedNames)
    (mem : reserved ∈ reservedNames) : name ≠ reserved :=
  fun same => free (same ▸ mem)

/-- The first node is the second one, quoted. -/
inductive Quotes : Node → Node → Prop
  | intro (node : Node) (loc loc' : Option Span) :
      Quotes (bracket .curly [leaf .identifier "quote" loc, node] loc') node

end Node

/-! ## The call -/

namespace Eval

theorem catchReturn_eq {action : Eval Value} {store : Store}
    (kept : ∀ value after, action store ≠ .error (.returned value) after) :
    catchReturn action store = action store := by
  simp only [catchReturn, tryCatch, tryCatchThe, MonadExceptOf.tryCatch, EStateM.tryCatch]
  cases ended : action store with
  | ok value after => rfl
  | error unwind after =>
      cases unwind with
      | returned value => exact absurd ended (kept value after)
      | failed failure => rfl

theorem Confined.ofExpansion (expansion : Expansion) : Confined (Value.ofExpansion expansion) := by
  cases expansion with
  | node n => exact (ReadsOnly.pure _).confined
  | nodes ns => exact .newNodeList ns

theorem result_eq {α : Type} (action : Eval α) :
    action.result = (action.outcome {}).mapError Unwind.failure := by
  unfold result outcome
  cases action {} <;> rfl

theorem mapM_toNode (nodes : List Node) :
    (nodes.map Value.node).mapM Value.toNode = pure nodes := by
  have each : ∀ node, (Value.node node).toNode = pure node := fun _ => rfl
  exact mapM_map_eq_pure each nodes

/-- What a macro produced is the same again after it was a value. -/
theorem toExpansion_ofExpansion (expansion : Expansion) (store : Store) :
    (Value.ofExpansion expansion >>= Value.toExpansion).outcome store = .ok expansion := by
  cases expansion with
  | node n => rfl
  | nodes ns =>
      let made := store.newList (ns.map Value.node).toArray
      have listed : (Value.list made.1).nodes? made.2 = some ns :=
        Value.nodes?_list_eq_some.mpr (store.items_newList _)
      have steps : (Value.ofExpansion (.nodes ns) >>= Value.toExpansion) store =
          (Value.list made.1).toExpansion made.2 := rfl
      rw [outcome, steps, Value.toExpansion_listed listed]

end Eval

namespace Machine

variable (machine : Machine)

section

variable (level : Level)

/-- A form that is headed by a free name is a call. -/
theorem evalForm_call {name : String} (free : name ∉ Node.reservedNames) (arguments : List Node)
    (loc loc' : Option Span) (scope : Scope) :
    machine.evalForm level (.leaf .identifier name loc) arguments loc' scope =
      (do let target ← level.callTarget (.leaf .identifier name loc) scope
          let arguments ← level.evalEach arguments scope
          target.call machine level arguments) := by
  unfold evalForm
  split
  case h_9 => rfl
  all_goals
    next head => exact absurd (Option.some.inj head) (Node.ne_of_free free (by decide))

/-- A registered macro that is called with nodes runs on them. -/
theorem call_registered (identity : Identity) (name : String) (definition : Definition)
    (nodes : List Node) :
    (Value.native identity (.registered name (.defined definition))).call machine level
        (nodes.map Value.node) =
      (level.run definition nodes >>= Value.ofExpansion) := by
  have steps : (Value.native identity (.registered name (.defined definition))).call machine level
      (nodes.map Value.node) =
        ((nodes.map Value.node).mapM Value.toNode >>= fun nodes =>
          level.run definition nodes >>= Value.ofExpansion) := rfl
  rw [steps, Eval.mapM_toNode]
  rfl

end

variable (inTime : machine.deadlinePassed = false) (depth : Nat)

include inTime

/-- A name that is not reserved is looked up. -/
theorem eval_name {name : String} (free : name ∉ Node.reservedNames) {scope : Scope}
    {store : Store} {value : Value} (bound : store.lookup scope name = some value)
    (loc : Option Span) :
    (machine.level (depth + 1)).eval (.leaf .identifier name loc) scope store =
      .ok value store := by
  have named : name ∉ ["true", "false", "null"] := by
    simp only [Node.reservedNames, List.mem_cons, not_or] at free ⊢
    tauto
  rw [machine.eval_identifier inTime depth named, Eval.lookup_eq_ok loc bound]

theorem eval_quoted {quoted node : Node} (quotes : quoted.Quotes node) (none : node.holes = [])
    (scope : Scope) (store : Store) :
    (machine.level (depth + 1)).eval quoted scope store = .ok (.node node) store := by
  rw [eval_inTime machine inTime]
  cases quotes with
  | intro node loc loc' =>
      have filled := Node.filled_of_no_holes (machine.level depth) scope none store
      have means : machine.evalNode (machine.level depth)
          (.bracket .curly [.leaf .identifier "quote" loc, node] loc') scope =
            (machine.level depth).evalQuote [node] scope := rfl
      rw [means, Level.evalQuote, List.mapM_cons, List.mapM_nil]
      simp only [Bind.bind, EStateM.bind, filled]
      rfl

theorem evalEach_quoted {quoted nodes : List Node} (quotes : List.Forall₂ Node.Quotes quoted nodes)
    (none : ∀ node ∈ nodes, node.holes = []) (scope : Scope) (store : Store) :
    (machine.level (depth + 1)).evalEach quoted scope store =
      .ok (nodes.map Value.node) store := by
  unfold Level.evalEach
  induction quotes with
  | nil => rfl
  | cons first _ ih =>
      obtain ⟨here, others⟩ := List.forall_mem_cons.mp none
      rw [List.mapM_cons, Eval.bind_eq_ok]
      refine ⟨_, _, machine.eval_quoted inTime depth first here scope store, ?_⟩
      rw [Eval.bind_eq_ok]
      exact ⟨_, _, ih others, rfl⟩

/-- A call with quoted nodes runs the macro on the nodes, two levels of depth further down. -/
theorem eval_call {name : String} {definition : Definition} (free : name ∉ Node.reservedNames)
    {quoted nodes : List Node} (quotes : List.Forall₂ Node.Quotes quoted nodes)
    (none : ∀ node ∈ nodes, node.holes = []) {scope : Scope} {store : Store} {identity : Identity}
    (bound : store.lookup scope name =
      some (.native identity (.registered name (.defined definition)))) (loc loc' : Option Span) :
    (machine.level (depth + 2)).eval
        (.bracket .curly (.leaf .identifier name loc :: quoted) loc') scope store =
      ((machine.level (depth + 1)).run definition nodes >>= Value.ofExpansion) store := by
  let level := machine.level (depth + 1)
  let callee := Value.native identity (.registered name (.defined definition))
  have found : level.callTarget (.leaf .identifier name loc) scope store = .ok callee store := by
    rw [Level.callTarget]
    · rw [Eval.bind_eq_ok]
      exact ⟨_, _, machine.eval_name inTime depth free bound loc, rfl⟩
    · nofun
  have given : level.evalEach quoted scope store = .ok (nodes.map Value.node) store :=
    machine.evalEach_quoted inTime depth quotes none scope store
  have form : machine.evalNode level
      (.bracket .curly (.leaf .identifier name loc :: quoted) loc') scope =
        machine.evalForm level (.leaf .identifier name loc) quoted loc' scope := rfl
  have called : callee.call machine level (nodes.map Value.node) =
      (level.run definition nodes >>= Value.ofExpansion) :=
    machine.call_registered level identity name definition nodes
  rw [eval_inTime machine inTime, form, machine.evalForm_call level free, ← called]
  simp only [Bind.bind, EStateM.bind, found, given]

/-- A macro that only calls another one ends as the other one does on its own. -/
theorem outcome_calling {name : String} {definition : Definition}
    (registered : machine.registry.get? name = some (.defined definition))
    (free : name ∉ Node.reservedNames) {quoted nodes : List Node}
    (quotes : List.Forall₂ Node.Quotes quoted nodes) (none : ∀ node ∈ nodes, node.holes = [])
    (params : List String) (arguments : List Node) (loc loc' : Option Span) (store : Store) :
    ((machine.level (depth + 3)).run
        ⟨params, [.bracket .curly (.leaf .identifier name loc :: quoted) loc']⟩
        arguments).outcome store =
      ((machine.level (depth + 1)).run definition nodes).outcome {} := by
  let form := Node.bracket .curly (.leaf .identifier name loc :: quoted) loc'
  let called := (machine.level (depth + 1)).run definition nodes
  let scope := store.bodyScope
  let entered := store.entered machine.registry params arguments
  have runs := (machine.level (depth + 2)).runDefinition_eq machine.registry ⟨params, [form]⟩
    arguments store
  obtain ⟨identity, found⟩ := store.lookup_entered_registered params arguments registered
  let body := (machine.level (depth + 2)).evalAll [form] scope
  have evaluated : body entered = (called >>= Value.ofExpansion) entered := by
    have single : body = (machine.level (depth + 2)).eval form scope := by
      simp [body, Level.evalAll]
    rw [single]
    exact machine.eval_call inTime depth free quotes none found loc loc'
  have kept : ∀ value after, body entered ≠ .error (.returned value) after := by
    have confined : Eval.Confined (called >>= Value.ofExpansion) :=
      (machine.confined_run _ definition nodes).bind .ofExpansion
    intro value after
    rw [evaluated]
    exact confined entered value after
  have ends : (machine.level (depth + 3)).run ⟨params, [form]⟩ arguments store =
      (called >>= fun expansion => Value.ofExpansion expansion >>= Value.toExpansion) entered := by
    rw [run_inTime machine inTime, runs, ← bind_assoc]
    simp only [Bind.bind, EStateM.bind] at evaluated ⊢
    rw [Eval.catchReturn_eq kept, evaluated]
  calc
    ((machine.level (depth + 3)).run ⟨params, [form]⟩ arguments).outcome store
    _ = (called >>= fun expansion =>
          Value.ofExpansion expansion >>= Value.toExpansion).outcome entered := by
      rw [Eval.outcome, ends, Eval.outcome]
    _ = called.outcome entered := by
      rw [Eval.outcome_bind]
      simp only [Eval.toExpansion_ofExpansion]
      cases called.outcome entered <;> rfl
    _ = called.outcome {} := (machine.run_above (depth + 1) definition nodes entered).1

end Machine

/-- Calling a registered macro by its name with quoted nodes gives what the macro gives when it is
    run on the nodes, or fails as it does, at the cost of two levels of depth. -/
theorem call_by_name (machine : Machine) {name : String} {definition : Definition}
    (registered : machine.registry.get? name = some (.defined definition))
    (free : name ∉ Node.reservedNames) {quoted nodes : List Node}
    (quotes : List.Forall₂ Node.Quotes quoted nodes)
    (lacks : ∀ node ∈ nodes, ∀ form, node.Contains form → form.isHole = false)
    (params : List String) (arguments : List Node) (loc loc' : Option Span) (limit : Nat)
    (shallow : ∀ failure, (machine.limited limit).run definition nodes = .error failure →
      ¬failure.TooDeep limit) :
    (machine.limited (limit + 2)).run
        ⟨params, [.bracket .curly (.leaf .identifier name loc :: quoted) loc']⟩ arguments =
      (machine.limited limit).run definition nodes := by
  have holeless : ∀ node ∈ nodes, node.holes = [] :=
    fun node mem => node.holes_eq_nil false (lacks node mem)
  have inside := machine.result_of_shallow (limit + 2) 0 definition nodes shallow
  rw [Nat.zero_add] at inside
  rw [← inside, Machine.run_eq]
  by_cases late : machine.deadlinePassed = true
  · rw [Machine.top, (machine.limited (limit + 2)).level_late late,
      (machine.limited (limit + 2)).level_late late]
  · cases limit with
    | zero =>
        -- without any depth the callee itself is refused
        have refused : (machine.limited 0).run definition nodes =
            .error (.fault { cause := (machine.limited 0).refusal }) := rfl
        have tooDeep : (machine.limited 0).refusal = .depthExceeded 0 := by
          simp [Machine.refusal, Machine.limited, late]
        rw [tooDeep] at refused
        exact absurd ⟨none, rfl⟩ (shallow _ refused)
    | succ depth =>
        have ends := (machine.limited (depth + 3)).outcome_calling (Bool.not_eq_true _ ▸ late) depth
          registered free quotes holeless params arguments loc loc' {}
        rw [Machine.top, Eval.result_eq, Eval.result_eq]
        exact congrArg (Except.mapError Unwind.failure) ends

/-- The callee returns its arguments early. They arrive as several nodes, and a parameter of the
    caller that has the name of the callee is hidden. -/
theorem call_by_name_returning :
    let both : Definition := ⟨["items"], [.curly [.ident "return", .ident "items"], .string "late"]⟩
    let machine : Machine := { registry := (Registry.register {} "both" (.defined both)).1 }
    let quote node : Node := .curly [.ident "quote", node]
    let a : Node := .binary (.ident "a") "+" (.number "1")
    let b : Node := .leaf .string "b" (some ⟨⟨0, 1, 1⟩, ⟨3, 1, 4⟩⟩)
    (machine.limited 5).run ⟨["both"], [.curly [.ident "both", quote a, quote b]]⟩ [.ident "c"] =
      .ok (.nodes [a, b]) := by
  intro both machine quote a b
  have direct : (machine.limited 3).run both [a, b] = .ok (.nodes [a, b]) := by
    decide +kernel
  have quotes : List.Forall₂ Node.Quotes [quote a, quote b] [a, b] :=
    .cons (.intro a none none) (.cons (.intro b none none) .nil)
  have lacks : ∀ node ∈ [a, b], ∀ form, node.Contains form → form.isHole = false := by
    simp [a, b, Node.binary, Node.ident, Node.number, Node.isHole, Node.isHeaded]
  have shallow : ∀ failure, (machine.limited 3).run both [a, b] = .error failure →
      ¬failure.TooDeep 3 := by
    intro failure failed
    cases direct.symm.trans failed
  rw [← direct]
  exact call_by_name machine (by rfl) (by decide) quotes lacks ["both"] [.ident "c"] none none 3
    shallow

end TreeMacros
