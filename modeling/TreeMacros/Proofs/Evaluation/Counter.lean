import Mathlib
import TreeMacros.Evaluation.Counter
import TreeMacros.Proofs.Evaluation.Isolation

/-! # The evaluator that counts

To count is to keep in the store what a level is in a run without counting. This is an instance of
moving a computation on top of a base, for a base that holds nothing but a depth: it leaves lists,
frames and functions where they are. At a depth the evaluator does what the level does that has
the rest of the depth limit below it, and it comes back to the depth that it started from.
-/

namespace TreeMacros

open Eval (Relocates)

variable {base : Store}

/-! ## One level deeper -/

/-- What is done one level deeper is done on a base that is counted one level deeper. -/
theorem Store.enter_above (store base : Store) :
    (store.above base).enter = store.above base.enter :=
  rfl

theorem Machine.nested_eq {α : Type} (machine : Machine) (span : Option Span) (action : Eval α)
    (store : Store) :
    machine.nested span action store =
      if machine.deadlinePassed then
        .error (.failed (.fault { cause := .deadlinePassed, span })) store
      else if machine.maxDepth < store.depth + 1 then
        .error (.failed (.fault { cause := .depthExceeded machine.maxDepth, span })) store
      else
        match action store.enter with
        | .ok a after => .ok a after.leave
        | .error unwind after => .error unwind after.leave := by
  unfold nested
  cases machine.deadlinePassed with
  | true => rfl
  | false =>
      simp only [Bool.false_eq_true, if_false, Bind.bind, EStateM.bind, get, getThe,
        MonadStateOf.get, EStateM.get]
      split
      · rfl
      · cases ended : action store.enter <;>
          simp [modify, modifyGet, MonadStateOf.modifyGet, EStateM.modifyGet, tryFinally,
            MonadFinally.tryFinally', Functor.map, EStateM.bind, EStateM.map, ended]

/-- Where there is depth left, counting one level deeper is standing on a level one higher. -/
theorem Machine.relocates_nested {α β : Type} {f : α → β} (machine : Machine)
    (span : Option Span) (room : base.depth < machine.maxDepth) {action : Eval α} {moved : Eval β}
    (inner : Relocates base.enter f action moved) :
    Relocates base f (machine.inTime span action) (machine.nested span moved) := by
  intro store
  have here := inner store
  rw [nested_eq, Store.enter_above, here]
  unfold inTime
  have deep : ¬machine.maxDepth < (store.above base).depth + 1 := Nat.not_lt.mpr room
  cases machine.deadlinePassed with
  | true => rfl
  | false =>
      simp only [Bool.false_eq_true, if_false, if_neg deep]
      cases action store <;> rfl

/-- Where there is none, the evaluator refuses like the lowest level. -/
theorem Machine.relocates_refusal {α β : Type} {f : α → β} (machine : Machine)
    (span : Option Span) (full : machine.maxDepth ≤ base.depth) (moved : Eval β) :
    Relocates base f (Eval.fail machine.refusal span : Eval α) (machine.nested span moved) := by
  intro store
  rw [nested_eq]
  unfold refusal
  have deep : machine.maxDepth < (store.above base).depth + 1 := Nat.lt_succ_of_le full
  cases machine.deadlinePassed with
  | true => rfl
  | false =>
      simp only [Bool.false_eq_true, if_false, if_pos deep]
      rfl

/-- The evaluator does at a depth what the level does that has the rest of the limit below it, if
    what it goes on with does so one level deeper. -/
theorem Machine.relocates_deeper (machine : Machine) (base : Store) {level : Level}
    (below : base.depth < machine.maxDepth →
      (machine.level (machine.maxDepth - base.enter.depth)).Relocates base.enter level) :
    (machine.level (machine.maxDepth - base.depth)).Relocates base (machine.deeper level) := by
  by_cases room : base.depth < machine.maxDepth
  · have below := below room
    have rest : machine.maxDepth - base.depth = machine.maxDepth - base.enter.depth + 1 := by
      simp only [Store.enter]
      omega
    rw [rest]
    refine ⟨fun node scope => ?_, fun closure arguments => ?_, fun definition nodes => ?_⟩
    · exact machine.relocates_nested _ room (machine.relocates_evalNode below node scope)
    · exact machine.relocates_nested _ room (below.callClosure closure arguments)
    · exact machine.relocates_nested _ room
        (below.runDefinition machine.registry definition nodes)
  · have full := Nat.not_lt.mp room
    rw [Nat.sub_eq_zero_of_le full]
    exact ⟨fun _ _ => machine.relocates_refusal _ full _,
      fun _ _ => machine.relocates_refusal _ full _, fun _ _ => machine.relocates_refusal _ full _⟩

theorem Machine.relocates_counting (machine : Machine) {turns : Nat} (base : Store)
    (enough : machine.maxDepth ≤ base.depth + turns) :
    (machine.level (machine.maxDepth - base.depth)).Relocates base (machine.counting turns) := by
  induction turns generalizing base with
  | zero =>
      rw [Nat.sub_eq_zero_of_le (by simpa using enough)]
      exact machine.relocates_level base 0
  | succ turns ih =>
      refine machine.relocates_deeper base fun _ => ih base.enter ?_
      rwa [Store.enter, Nat.succ_add_eq_add_succ]

theorem Machine.relocates_evaluator (machine : Machine) (base : Store) :
    (machine.level (machine.maxDepth - base.depth)).Relocates base machine.evaluator :=
  machine.relocates_counting base (Nat.le_add_left _ _)

/-! ## Tasks -/

def Task.above (base : Store) : Task → Task
  | .eval node scope => .eval node (scope.above base)
  | .evalAll body scope => .evalAll body (scope.above base)
  | .call callee arguments => .call (callee.above base) (arguments.map (Value.above base))
  | .run definition arguments => .run definition arguments
  | .fill template scope => .fill template (scope.above base)

def Task.Product.above (base : Store) : Task.Product → Task.Product
  | Product.value v => Product.value (v.above base)
  | Product.expansion e => Product.expansion e

theorem Machine.relocates_perform (machine : Machine) {level moved : Level}
    (below : level.Relocates base moved) (task : Task) :
    Relocates base (Task.Product.above base) (machine.perform level task)
      (machine.perform moved (task.above base)) := by
  cases task with
  | eval node scope => exact (below.eval node scope).bind fun _ => .pure rfl
  | evalAll body scope => exact (below.evalAll body scope .null).bind fun _ => .pure rfl
  | call callee arguments =>
      exact (callee.relocates_call machine below arguments).bind fun _ => .pure rfl
  | run definition arguments => exact (below.run definition arguments).bind fun _ => .pure rfl
  | fill template scope =>
      exact (template.relocates_filled below scope).bind fun _ => .pure rfl

/-! ## A base that only counts -/

/-- A store that holds nothing but a depth. -/
def Store.floor (depth : Nat) : Store where
  depth := depth

section Floor

variable (depth : Nat)

theorem Scope.above_floor (scope : Scope) : scope.above (.floor depth) = scope := by
  simp [above, Store.floor]

theorem Closure.above_floor (closure : Closure) : closure.above (.floor depth) = closure := by
  simp only [above, Scope.above_floor]

theorem Value.above_floor : Value.above (.floor depth) = id := by
  funext value
  cases value with
  | closure identity c =>
      simp only [above, Closure.above_floor]
      simp [Store.floor]
  | native identity n => cases n <;> simp [above, Native.above, Store.floor]
  | list id => simp [Store.floor]
  | _ => rfl

theorem Task.above_floor (task : Task) : task.above (.floor depth) = task := by
  cases task <;> simp [above, Scope.above_floor, Value.above_floor]

theorem Store.above_floor (store : Store) : store.above (.floor store.depth) = store := by
  have frames : Fields.mapValues (id : Value → Value) = id := by
    funext frame
    simp [Fields.mapValues]
  simp only [above, Value.above_floor, frames]
  simp [floor]

end Floor

namespace Eval

variable {α β : Type}

/-- What two computations do on the floor of a store, they do in that store. -/
theorem Relocates.unique {f : α → β} {store : Store} {action : Eval α} {moved moved' : Eval β}
    (moves : Relocates (.floor store.depth) f action moved)
    (moves' : Relocates (.floor store.depth) f action moved') : moved store = moved' store := by
  have here := (moves store).trans (moves' store).symm
  rwa [Store.above_floor] at here

theorem Relocates.depth_after {f : α → β} {store : Store} {action : Eval α} {moved : Eval β}
    (moves : Relocates (.floor store.depth) f action moved) :
    (moved.after store).depth = store.depth := by
  have here := moves store
  rw [Store.above_floor] at here
  unfold after
  rw [here]
  cases action store <;> rfl

end Eval

/-! ## The evaluator and the levels -/

theorem Level.Relocates.unique {levels : Nat → Level} {moved moved' : Level}
    (moves : ∀ depth, (levels depth).Relocates (.floor depth) moved)
    (moves' : ∀ depth, (levels depth).Relocates (.floor depth) moved') : moved = moved' := by
  refine (Level.mk.injEq ..).mpr ⟨?_, ?_, ?_⟩
  · funext node scope store
    have same := ((moves store.depth).eval node scope).unique
      ((moves' store.depth).eval node scope)
    rwa [Scope.above_floor] at same
  · funext closure arguments store
    have same := ((moves store.depth).invoke closure arguments).unique
      ((moves' store.depth).invoke closure arguments)
    rwa [Closure.above_floor, Value.above_floor, List.map_id] at same
  · funext definition nodes store
    exact ((moves store.depth).run definition nodes).unique
      ((moves' store.depth).run definition nodes)

namespace Machine

variable (machine : Machine)

/-- The evaluator goes on inside itself: how many turns it has cannot be told from what it does. -/
theorem evaluator_eq : machine.evaluator = machine.deeper machine.evaluator :=
  Level.Relocates.unique (fun depth => machine.relocates_evaluator (.floor depth)) fun depth =>
    machine.relocates_deeper (.floor depth) fun _ => machine.relocates_evaluator _

/-- The evaluator carries out a task as the level does that has the rest of the limit below it. -/
theorem perform_evaluator (task : Task) (store : Store) :
    machine.perform machine.evaluator task store =
      machine.perform (machine.level (machine.maxDepth - store.depth)) task store := by
  let base := Store.floor store.depth
  let level := machine.level (machine.maxDepth - store.depth)
  have counted : Relocates base (Task.Product.above base) (machine.perform level task)
      (machine.perform machine.evaluator (task.above base)) :=
    machine.relocates_perform (machine.relocates_evaluator base) task
  have same := counted.unique (machine.relocates_perform (machine.relocates_level base _) task)
  rwa [Task.above_floor] at same

/-- However a task ends, the evaluator is back at the depth at which it began. -/
theorem depth_after_perform (task : Task) (store : Store) :
    ((machine.perform machine.evaluator task).after store).depth = store.depth := by
  have counted := machine.relocates_perform (machine.relocates_evaluator (.floor store.depth)) task
  rw [Task.above_floor] at counted
  exact counted.depth_after

end Machine

end TreeMacros
