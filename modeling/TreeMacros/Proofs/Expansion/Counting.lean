import Mathlib
import TreeMacros.Proofs.Expansion.Walk

/-! # Counting nested expansions

A call may give more calls than it had parts, and definitions as well, so neither what is still to
be walked nor what can still be called gets less. Here is the walk as it goes if it only counts how
many expansions are nested, and stops at a call that is nested too deep. Nothing in it says that it
ends, but it does, with what expansion gives.
-/

namespace TreeMacros

/-- A computation that may register macros, may fail, and may go on for ever. -/
abbrev Unbounded := ExceptT Failure (StateT Registry Option)

namespace Expanding

variable {α β : Type}

/-- The result of a computation, beside what is registered then. -/
def outcome : EStateM.Result Failure Registry α → Except Failure α × Registry
  | .ok result after => (.ok result, after)
  | .error failure after => (.error failure, after)

/-- A computation that ends, among those that may go on for ever. -/
def ending (action : Expanding α) : Unbounded α :=
  ExceptT.mk fun registry => some (outcome (action registry))

theorem ending_pure (result : α) : ending (pure result) = pure result := rfl

theorem ending_bind (action : Expanding α) (next : α → Expanding β) :
    ending (action >>= next) = ending action >>= fun result => ending (next result) := by
  funext registry
  show some (outcome ((action >>= next) registry)) =
    (ending action >>= fun result => ending (next result)) registry
  simp only [Bind.bind, EStateM.bind, ExceptT.bind, ending, ExceptT.mk, StateT.bind, Option.bind]
  cases action registry <;> rfl

end Expanding

namespace Expander

open Expanding (ending ending_pure ending_bind)

-- A recursive call that is piped leaves no place in this text behind in the definition.

mutual

/-- The nodes that take the place of a node that so many nested expansions produced. -/
def countingNode (expander : Expander) (nested : Nat) : Node → Unbounded (List Node)
  | .leaf kind text loc => return [.leaf kind text loc]
  | .binop left operator right loc => do
    match expander.pacing with
    | .blocking =>
      let left ← ending (single loc (← expander |>.countingNode nested left))
      let right ← ending (single loc (← expander |>.countingNode nested right))
      return [.binop left operator right loc]
    | .concurrent =>
      let left ← expander |>.countingNode nested left
      let right ← expander |>.countingNode nested right
      return [.binop (← ending (single loc left)) operator (← ending (single loc right)) loc]
  | .bracket kind children loc => do
    if ← ending (define? (.bracket kind children loc)) then return []
    match expander.expandCall? (← get) (.bracket kind children loc) with
    | .error failure => throw failure
    | .ok (some nodes) =>
      if expander.maxDepth ≤ nested then
        ending (Expanding.fail (.expansionDepthExceeded expander.maxDepth) loc)
      else expander |>.countingAll (nested + 1) nodes
    | .ok none => return [.bracket kind (← expander |>.countingAll nested children) loc]
partial_fixpoint

/-- The nodes that take the place of nodes in a row. -/
def countingAll (expander : Expander) (nested : Nat) : List Node → Unbounded (List Node)
  | [] => return []
  | node :: rest => do
    let nodes ← expander |>.countingNode nested node
    return nodes ++ (← expander |>.countingAll nested rest)
partial_fixpoint

end

variable {expander : Expander}

/-- Where expansions may still be nested as deep as is left up to the limit, the walk that counts
    up ends as the one does that counts down. -/
theorem countingAll_eq {nested depth : Nat} (nodes : List Node)
    (limit : nested + depth = expander.maxDepth) :
    expander.countingAll nested nodes = ending (expander.walkAll depth nodes) := by
  induction depth, nodes using walk_induction (fun depth node =>
    ∀ nested, nested + depth = expander.maxDepth →
      expander.countingNode nested node = ending (expander.walkNode depth node))
      generalizing nested with
  | leaf depth kind text loc nested limit =>
      rw [countingNode, walkNode_leaf, ending_pure]
  | binop depth left operator right loc first second nested limit =>
      rw [countingNode, first nested limit, second nested limit]
      cases pacing : expander.pacing with
      | blocking => simp only [walkNode_blocking depth pacing, ending_bind, ending_pure]
      | concurrent => simp only [walkNode_concurrent depth pacing, ending_bind, ending_pure]
  | bracket depth kind children loc produced inner nested limit =>
      rw [countingNode, walkNode, expandNode, ending_bind]
      congr 1
      funext defines
      cases defines with
      | true => rfl
      | false =>
          simp only [Bool.false_eq_true, if_false, ending_bind]
          congr 1
          funext registered
          cases expander.expandCall? registered (.bracket kind children loc) with
          | error failure => rfl
          | ok given =>
              cases given with
              | none =>
                  simp only [inner limit, ending_bind, ending_pure]
                  rfl
              | some nodes =>
                  -- no depth is left exactly where the count has come to the limit
                  cases depth with
                  | zero =>
                      dsimp only
                      rw [if_pos (by omega)]
                      rfl
                  | succ depth =>
                      dsimp only
                      rw [if_neg (by omega)]
                      exact produced depth rfl nodes (by omega)
  | nil depth => rw [countingAll, walkAll_nil, ending_pure]
  | cons depth node rest first others =>
      rw [countingAll, walkAll_cons, first nested limit, others limit]
      simp only [ending_bind, ending_pure]

end Expander
end TreeMacros
