import TreeMacros.Proofs.Evaluation.Counter
import TreeMacros.Proofs.Evaluation.Likeness.Strict
import TreeMacros.Proofs.Node.Decidable

/-! # What can be observed of the depth limit

Nothing that a macro does lets it see how deep it is, or go on after it was too deep. So a higher
limit changes nothing but the runs that the lower one ends. An evaluator that counts leaves each
task at the depth at which it began, so what it does never depends on what it was asked before.
-/

namespace TreeMacros

/-! ## A higher limit -/

/-- A machine with another depth limit. -/
def Machine.limited (machine : Machine) (limit : Nat) : Machine :=
  { machine with maxDepth := limit }

/-- Being refused for the depth. -/
def Failure.TooDeep (limit : Nat) (failure : Failure) : Prop :=
  ∃ span, failure = .fault { cause := .depthExceeded limit, span }

theorem Failure.TooDeep.locate {limit : Nat} {failure : Failure} (loc : Option Span)
    (deep : failure.TooDeep limit) : (failure.locate loc).TooDeep limit := by
  obtain ⟨span, rfl⟩ := deep
  exact ⟨span.or loc, rfl⟩

/-- When its time is over, a machine refuses at every level. -/
theorem Machine.level_late (machine : Machine) (late : machine.deadlinePassed = true)
    (depth : Nat) :
    machine.level depth =
      { eval := fun node _ => Eval.fail .deadlinePassed node.loc
        invoke := fun _ _ => Eval.fail .deadlinePassed
        run := fun _ _ => Eval.fail .deadlinePassed } := by
  cases depth <;> simp only [level, refusal, inTime, late, if_true]

/-- Runs that are the same, unless the first one gets too deep. -/
def Likeness.shallow (services : Services) (limit : Nat) : Likeness :=
  strict services True (Failure.TooDeep limit) Failure.TooDeep.locate

namespace Likeness.shallow

variable (machine : Machine) (limit limit' : Nat)

theorem machines :
    (shallow machine.services limit).Machines (machine.limited limit) (machine.limited limit') :=
  ⟨strict.registries (absurd trivial), rfl, rfl, rfl, rfl⟩

/-- Where the lower limit refuses, a level that has depth left may do as it likes. -/
theorem levels (base : Nat) :
    (shallow machine.services limit).Levels ((machine.limited limit).level 0)
      ((machine.limited limit').level base) := by
  by_cases late : machine.deadlinePassed = true
  · rw [(machine.limited limit).level_late late, (machine.limited limit').level_late late]
    exact ⟨fun _ _ _ code _ => .fail _ code.loc, fun _ _ _ _ _ _ _ => .fail _ rfl,
      fun _ _ _ _ _ _ _ => .fail _ rfl⟩
  · have deep : ∀ span, Failure.TooDeep limit
        (.fault { cause := (machine.limited limit).refusal, span }) := fun span =>
      ⟨span, by simp [Machine.refusal, Machine.limited, late]⟩
    exact ⟨fun _ _ _ _ _ _ _ store _ _ => .excused (deep _) store _,
      fun _ _ _ _ _ _ _ _ _ store _ _ => .excused (deep _) store _,
      fun _ _ _ _ _ _ _ _ _ store _ _ => .excused (deep _) store _⟩

end Likeness.shallow

/-- A run that does not get too deep goes the same way at any level that has as much depth left. -/
theorem Machine.result_of_shallow (machine : Machine) {limit : Nat} (limit' base : Nat)
    (definition : Definition) (nodes : List Node)
    (shallow : ∀ failure, (machine.limited limit).run definition nodes =
      .error failure → ¬failure.TooDeep limit) :
    (((machine.limited limit').level (base + limit)).run definition nodes).result =
      (machine.limited limit).run definition nodes := by
  have same : (Likeness.shallow machine.services limit).Definitions definition definition :=
    Likeness.strict.definitions (absurd trivial)
  have outcomes := (Likeness.shallow.machines machine limit limit').result
    (Likeness.shallow.levels machine limit limit' base) limit same
    (Likeness.strict.allData nodes)
  have lower : (machine.limited limit).run definition nodes =
    (((machine.limited limit).level limit).run definition nodes).result := Machine.run_eq _ _ _
  rw [← lower] at outcomes
  generalize (machine.limited limit).run definition nodes = result,
    (((machine.limited limit').level (base + limit)).run definition nodes).result = result'
    at outcomes shallow ⊢
  cases outcomes with
  | ok like =>
      cases like with
      | node like => rw [Node.Like.eq like]
      | nodes like => rw [Node.Like.eqAll like]
  | fault same => rw [same]
  | endless => rfl
  | excused deep => exact absurd deep (shallow _ rfl)

/-- A run that does not get too deep goes the same way under a higher limit. -/
theorem Machine.run_of_le (machine : Machine) {limit limit' : Nat} (higher : limit ≤ limit')
    (definition : Definition) (nodes : List Node)
    (shallow : ∀ failure, (machine.limited limit).run definition nodes =
      .error failure → ¬failure.TooDeep limit) :
    (machine.limited limit').run definition nodes =
      (machine.limited limit).run definition nodes := by
  have same := machine.result_of_shallow limit' (limit' - limit) definition nodes shallow
  rw [Nat.sub_add_cancel higher] at same
  exact (Machine.run_eq _ _ _).trans same

/-! ## One evaluator for many tasks -/

namespace Machine

/-- The stores that one evaluator finds, task after task. In between, its host may do anything but
    count. -/
inductive Session (machine : Machine) : Store → Prop
  | new {store : Store} (fresh : store.depth = 0) : Session machine store
  | asked {store : Store} (before : Session machine store) (task : Task) :
      Session machine ((machine.perform machine.evaluator task).after store)
  | changed {store later : Store} (before : Session machine store)
      (same : later.depth = store.depth) : Session machine later

theorem Session.depth {machine : Machine} {store : Store} (session : machine.Session store) :
    store.depth = 0 := by
  induction session with
  | new fresh => exact fresh
  | asked _ task ih => exact (machine.depth_after_perform task _).trans ih
  | changed _ same ih => exact same.trans ih

end Machine

/-- The depth limit can be observed only as the failure to go deeper: a run that does not end with
    it goes the same way under every higher limit. An evaluator that counts goes on inside itself,
    without a limit of its own. And whatever the tasks that it carried out before ended in, it
    carries out the next one as a new evaluator does in the same store, which is what the outermost
    level does; it is never left at some depth. -/
theorem depth_limit_observed (machine : Machine) :
    (∀ limit limit' definition nodes, limit ≤ limit' →
      (∀ failure, (machine.limited limit).run definition nodes =
        .error failure → ¬failure.TooDeep limit) →
      (machine.limited limit').run definition nodes =
        (machine.limited limit).run definition nodes) ∧
    machine.evaluator = machine.deeper machine.evaluator ∧
    ∀ store, machine.Session store → ∀ task,
      let asked := machine.perform machine.evaluator task
      asked store = asked { store with depth := 0 } ∧
      asked store = machine.perform machine.top task store ∧ (asked.after store).depth = 0 := by
  refine ⟨fun limit limit' definition nodes higher shallow =>
    machine.run_of_le higher definition nodes shallow, machine.evaluator_eq,
    fun store session task => ?_⟩
  intro asked
  have fresh := session.depth
  refine ⟨congrArg asked ?_, ?_, ?_⟩
  · exact congrArg (Store.mk _ _ _ _) fresh
  · have level := machine.perform_evaluator task store
    rwa [fresh] at level
  · exact (machine.depth_after_perform task store).trans fresh

/-- A macro that nests as deep as the limit of the first machine allows, and an evaluator that has
    refused it. -/
theorem depth_limit_observed_text :
    let machine : Machine := { maxDepth := 1 }
    let definition : Definition := ⟨[], [.string "a"]⟩
    let asked := machine.perform machine.evaluator (.run definition [])
    (machine.limited 3).run definition [] = .ok (.node (.string "a")) ∧
      asked (asked.after {}) = asked { asked.after {} with depth := 0 } := by
  intro machine definition asked
  have least : (machine.limited 2).run definition [] = .ok (.node (.string "a")) := by
    decide +kernel
  obtain ⟨higher, -, again⟩ := depth_limit_observed machine
  constructor
  · rw [← least]
    refine higher 2 3 definition [] (by decide) fun failure failed => ?_
    cases least.symm.trans failed
  · exact (again _ (.asked (.new rfl) _) _).1

end TreeMacros
