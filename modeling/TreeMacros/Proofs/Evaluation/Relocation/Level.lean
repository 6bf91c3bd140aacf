import TreeMacros.Evaluation.Running
import TreeMacros.Proofs.Evaluation.Relocation.Form

/-! # Levels that can be moved

A closure is moved with the scope that it was written in. A macro has none: its run makes every
frame that it works on, so that it is the same run on top of every base.
-/

namespace TreeMacros

open Eval (Relocates)

variable {base : Store}

/-! ## Binding arguments -/

theorem relocates_assignParameters (scope : Scope) (names : List String)
    (arguments : List Value) :
    Relocates base id (assignParameters scope names arguments)
      (assignParameters (scope.above base) names (arguments.map (Value.above base))) := by
  induction names generalizing arguments with
  | nil => exact .pure rfl
  | cons name rest ih =>
      unfold assignParameters
      have first := firstArgument_above base arguments
      unfold firstArgument at first
      rw [first, ← List.map_tail]
      exact (Relocates.assign scope name _).bind fun _ => ih arguments.tail

theorem relocates_defineParameters (scope : Scope) (names : List String) (nodes : List Node) :
    Relocates base id (defineParameters scope names nodes)
      (defineParameters (scope.above base) names nodes) := by
  induction names generalizing nodes with
  | nil => exact .pure rfl
  | cons name rest ih => exact (Relocates.define scope name (.node _)).bind fun _ => ih nodes.tail

theorem relocates_bindArguments (scope : Scope) (params : List String) (nodes : List Node) :
    Relocates base id (bindArguments scope params nodes)
      (bindArguments (scope.above base) params nodes) := by
  match params with
  | [only] => exact (Relocates.newNodeList nodes).bind fun all => .define scope only all
  | [] | _ :: _ :: _ => exact relocates_defineParameters scope _ nodes

theorem relocates_bindRegistry (scope : Scope) (registry : Registry) :
    Relocates base id (bindRegistry scope registry) (bindRegistry (scope.above base) registry) :=
  .forM (fun entry => (Relocates.newNative _).bind fun value => .define scope entry.1 value) _

/-! ## Levels -/

namespace Level.Relocates

variable {level moved : Level} (below : level.Relocates base moved)

include below

theorem callClosure (closure : Closure) (arguments : List Value) :
    Eval.Relocates base (Value.above base) (level.callClosure closure arguments)
      (moved.callClosure (closure.above base) (arguments.map (Value.above base))) := by
  refine (Eval.Relocates.newFrameIn closure.scope).bind fun scope => ?_
  refine (relocates_assignParameters scope closure.params arguments).bind fun _ => ?_
  have body := below.evalAll closure.body scope .null
  -- the kind is not moved, but stands below `Closure.above`
  obtain ⟨name, params, statements, outside, kind⟩ := closure
  cases kind with
  | function => exact body.catchReturn
  | lambda => exact body

theorem runDefinition (registry : Registry) (definition : Definition) (nodes : List Node) :
    Eval.Relocates base id (level.runDefinition registry definition nodes)
      (moved.runDefinition registry definition nodes) := by
  refine Eval.relocates_newBaseScope.bind fun outside => ?_
  refine (Eval.Relocates.newFrameIn outside).bind fun scope => ?_
  refine (relocates_bindArguments scope definition.params nodes).bind fun _ => ?_
  refine (relocates_bindRegistry scope registry).bind fun _ => ?_
  refine (below.evalAll definition.body scope .null).catchReturn.bind fun value => ?_
  exact value.relocates_toExpansion

end Level.Relocates

theorem Machine.relocates_inTime {α β : Type} {f : α → β} (machine : Machine)
    (span : Option Span) {action : Eval α} {moved : Eval β}
    (inner : Relocates base f action moved) :
    Relocates base f (machine.inTime span action) (machine.inTime span moved) := by
  unfold inTime
  cases machine.deadlinePassed with
  | true => exact .fail _ _
  | false => exact inner

/-- Each level of a machine can be moved, since the level below it can. -/
theorem Machine.relocates_level (machine : Machine) (base : Store) (depth : Nat) :
    (machine.level depth).Relocates base (machine.level depth) := by
  induction depth with
  | zero =>
      exact ⟨fun _ _ => .fail _ _, fun _ _ => .fail _ _, fun _ _ => .fail _ _⟩
  | succ depth below =>
      refine ⟨fun node scope => ?_, fun closure arguments => ?_, fun definition nodes => ?_⟩
      · exact machine.relocates_inTime _ (machine.relocates_evalNode below node scope)
      · exact machine.relocates_inTime _ (below.callClosure closure arguments)
      · exact machine.relocates_inTime _ (below.runDefinition machine.registry definition nodes)

end TreeMacros
