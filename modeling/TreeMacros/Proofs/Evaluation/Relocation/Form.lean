import TreeMacros.Evaluation.Form
import TreeMacros.Proofs.Evaluation.Relocation.Function

/-! # Forms that can be moved

Each form of a node can be moved if the level below it can.
-/

namespace TreeMacros

open Eval (Relocates)

variable {base : Store}

/-! ## Operations -/

namespace ValueOperator

theorem relocates_itemAt (target key : Value) :
    Relocates base (Value.above base) (itemAt target key)
      (itemAt (target.above base) (key.above base)) := by
  unfold itemAt
  rw [Value.number?_above, Value.typeName_above]
  cases key.number? with
  | none => exact .fail _ _
  | some place =>
      dsimp only
      cases Binary.whole? place with
      | none => exact .pure rfl
      | some whole =>
          cases whole with
          | negSucc i => exact .pure rfl
          | ofNat i =>
              cases target with
              | list list =>
                  refine (Relocates.items list).bind fun items => .pure ?_
                  simp only [Array.getD_eq_getD_getElem?, Array.getElem?_map]
                  cases items[i]? <;> rfl
              | text s =>
                  refine .pure ?_
                  cases s.toList[i]? <;> simp
              | _ => exact .fail _ _

theorem compare?_above (left right : Value) :
    compare? (left.above base) (right.above base) = compare? left right := by
  cases left <;> cases right <;> rfl

theorem relocates_apply (operator : ValueOperator) (left right : Value) :
    Relocates base (Value.above base) (operator.apply left right)
      (operator.apply (left.above base) (right.above base)) := by
  have mismatch : Relocates base (Value.above base)
      (Eval.fail (.operandTypes operator.symbol left.typeName right.typeName))
      (Eval.fail (.operandTypes operator.symbol (left.above base).typeName
        (right.above base).typeName)) := by
    rw [left.typeName_above, right.typeName_above]
    exact .fail _ _
  cases operator with
  | equal | unequal => exact .pure (by simp)
  | both | either => exact .pure (by simp)
  | plus =>
      cases left with
      | text a => exact (Relocates.textOf right).bind fun _ => .pure rfl
      | number a =>
          cases right with
          | number b => exact .pure rfl
          | text b => exact (Relocates.textOf (.number a)).bind fun _ => .pure rfl
          | _ => exact mismatch
      | _ =>
          cases right with
          | text b => exact (Relocates.textOf _).bind fun _ => .pure rfl
          | _ => exact mismatch
  | arithmetic operator =>
      cases left with
      | number a =>
          cases right with
          | number b => exact .pure rfl
          | _ => exact mismatch
      | _ => exact mismatch
  | comparison operator =>
      simp only [apply, compare?_above]
      cases compare? left right with
      | none => exact mismatch
      | some order => exact .pure rfl
  | index => exact relocates_itemAt left right

end ValueOperator

/-! ## Templates -/

theorem relocates_fillHole {level moved : Level} (below : level.Relocates base moved)
    (scope : Scope) (children : List Node) (loc : Option Span) :
    Relocates base id (fillHole level scope children loc)
      (fillHole moved (scope.above base) children loc) :=
  (below.eval _ scope).bind fun value => (Value.relocates_toExpansion value).locating loc

mutual

theorem Node.relocates_filled {level moved : Level} (below : level.Relocates base moved)
    (scope : Scope) (node : Node) :
    Relocates base id (node.filled level scope) (node.filled moved (scope.above base)) := by
  cases node with
  | leaf kind text loc =>
      simp only [Node.filled]
      exact .pure rfl
  | binop left operator right loc =>
      simp only [Node.filled]
      refine (Node.relocates_filled below scope left).bind fun first => ?_
      refine (Node.relocates_filled below scope right).bind fun second => ?_
      cases first with
      | node first =>
          cases second with
          | node second => exact .pure rfl
          | nodes seconds => exact .fail _ _
      | nodes firsts => exact .fail _ _
  | bracket kind children loc =>
      simp only [Node.filled]
      cases (Node.bracket kind children loc).isHole with
      | true => exact relocates_fillHole below scope children loc
      | false => exact (relocates_filledAll below scope children).bind fun _ => .pure rfl
termination_by sizeOf node

theorem relocates_filledAll {level moved : Level} (below : level.Relocates base moved)
    (scope : Scope) (nodes : List Node) :
    Relocates base id (filledAll level scope nodes)
      (filledAll moved (scope.above base) nodes) := by
  cases nodes with
  | nil =>
      simp only [filledAll]
      exact .pure rfl
  | cons node rest =>
      simp only [filledAll]
      refine (Node.relocates_filled below scope node).bind fun expansion => ?_
      exact (relocates_filledAll below scope rest).bind fun _ => .pure rfl
termination_by sizeOf nodes

end

/-! ## Special forms -/

theorem relocates_parameterNames (nodes : List Node) (cause : Cause) :
    Relocates base id (parameterNames nodes cause) (parameterNames nodes cause) := by
  have names : Relocates base (List.map id) (parameterNames nodes cause)
      (parameterNames nodes cause) := by
    refine .mapM_same (fun node => ?_) nodes
    cases node.ident? with
    | none => exact .fail _ _
    | some name => exact .pure rfl
  rwa [List.map_id_fun] at names

theorem relocates_defineFunction (loc : Option Span) (parts : List Node) (scope : Scope) :
    Relocates base (Value.above base) (defineFunction loc parts scope)
      (defineFunction loc parts (scope.above base)) := by
  unfold defineFunction
  split
  · refine (relocates_parameterNames _ _).bind fun params => ?_
    refine (Relocates.newClosure _).bind fun closure => ?_
    exact (Relocates.assign scope _ closure).bind fun _ => .pure rfl
  · exact .fail _ _

theorem getD_null_above (base : Store) (found : Option Value) :
    (found.map (Value.above base)).getD .null = (found.getD .null).above base := by
  cases found <;> rfl

theorem relocates_callable (target : Value) (cause : Cause) (span : Option Span) :
    Relocates base (Value.above base)
      (if target.isCallable then pure target else Eval.fail cause span)
      (if (target.above base).isCallable then pure (target.above base)
        else Eval.fail cause span) := by
  rw [target.isCallable_above]
  cases target.isCallable with
  | true => exact .pure rfl
  | false => exact .fail _ _

namespace Level.Relocates

variable {level moved : Level} (below : level.Relocates base moved)

include below

theorem evalIf (scope : Scope) (parts : List Node) :
    Eval.Relocates base (Value.above base) (level.evalIf scope parts)
      (moved.evalIf (scope.above base) parts) := by
  match parts with
  | [] => exact .pure rfl
  | [fallback] => exact below.eval fallback scope
  | condition :: branch :: rest =>
      refine (below.eval condition scope).bind fun value => ?_
      rw [value.isTruthy_above]
      cases value.isTruthy with
      | true => exact below.eval branch scope
      | false => exact evalIf scope rest

theorem evalWhen (scope : Scope) (parts : List Node) :
    Eval.Relocates base (Value.above base) (level.evalWhen scope parts)
      (moved.evalWhen (scope.above base) parts) := by
  cases parts with
  | nil => exact .pure rfl
  | cons condition body =>
      refine (below.eval condition scope).bind fun value => ?_
      rw [value.isTruthy_above]
      cases value.isTruthy with
      | true => exact below.evalAll body scope .null
      | false => exact .pure rfl

theorem evalWhile (condition : Node) (body : List Node) (scope : Scope) (value : Value)
    (patience : Nat) :
    Eval.Relocates base (Value.above base) (level.evalWhile condition body scope value patience)
      (moved.evalWhile condition body (scope.above base) (value.above base) patience) := by
  induction patience generalizing value with
  | zero => exact .forever _
  | succ patience ih =>
      refine (below.eval condition scope).bind fun truth => ?_
      rw [truth.isTruthy_above]
      cases truth.isTruthy with
      | true => exact (below.evalAll body scope value).bind ih
      | false => exact .pure rfl

/-- The turns of a loop, one for each item of a list. -/
theorem turns (name : String) (body : List Node) (scope : Scope) (list : ListId) :
    Eval.Relocates base (Value.above base)
      (do
        (← Eval.items list).toList.foldlM (fun value item => do
          Eval.assign scope name item
          level.evalAll body scope value) Value.null)
      (do
        (← Eval.items (base.lists.size + list)).toList.foldlM (fun value item => do
          Eval.assign (scope.above base) name item
          moved.evalAll body (scope.above base) value) Value.null) := by
  refine (Eval.Relocates.items list).bind fun items => ?_
  rw [Array.toList_map]
  refine .foldlM (fun value item => ?_) items.toList Value.null
  exact (Eval.Relocates.assign scope name item).bind fun _ => below.evalAll body scope value

theorem evalFor (loc : Option Span) (parts : List Node) (scope : Scope) :
    Eval.Relocates base (Value.above base) (level.evalFor loc parts scope)
      (moved.evalFor loc parts (scope.above base)) := by
  unfold Level.evalFor
  cases parts.head?.bind Node.ident? with
  | none => exact .fail _ _
  | some name =>
      dsimp only
      cases parts[1]? with
      | none =>
          refine (Eval.Relocates.newList_fixed Array.map_empty).bind fun iterable => ?_
          cases iterable with
          | list list => exact below.turns name _ scope list
          | _ => exact .fail _ _
      | some node =>
          refine (below.eval node scope).bind fun iterable => ?_
          cases iterable with
          | list list => exact below.turns name _ scope list
          | _ => exact .fail _ _

theorem evalReturn (parts : List Node) (scope : Scope) :
    Eval.Relocates base (Value.above base) (level.evalReturn parts scope)
      (moved.evalReturn parts (scope.above base)) := by
  cases parts with
  | nil =>
      have null : Eval.Relocates base (Value.above base) (pure Value.null) (pure Value.null) :=
        .pure rfl
      exact null.bind fun value => .throw (.returned value)
  | cons node rest => exact (below.eval node scope).bind fun value => .throw (.returned value)

theorem evalQuote (parts : List Node) (scope : Scope) :
    Eval.Relocates base (Value.above base) (level.evalQuote parts scope)
      (moved.evalQuote parts (scope.above base)) := by
  refine (Eval.Relocates.mapM_same (fun node => node.relocates_filled below scope) parts).bind
    fun expansions => ?_
  rw [List.map_id]
  match expansions with
  | [] => exact .pure rfl
  | [expansion] => exact Value.relocates_ofExpansion expansion
  | first :: second :: rest => exact .newNodeList _

/-! ## Calls and members -/

theorem memberKey (node : Node) (scope : Scope) :
    Eval.Relocates base id (level.memberKey node scope)
      (moved.memberKey node (scope.above base)) := by
  unfold Level.memberKey
  cases node.ident? with
  | none => exact (below.eval node scope).bind .textOf
  | some name => exact .pure rfl

theorem callTarget (head : Node) (scope : Scope) :
    Eval.Relocates base (Value.above base) (level.callTarget head scope)
      (moved.callTarget head (scope.above base)) := by
  unfold Level.callTarget
  split
  · refine (below.eval _ scope).bind fun receiver => ?_
    refine (below.memberKey _ scope).bind fun key => ?_
    refine (receiver.relocates_member? key).bind fun member => ?_
    rw [getD_null_above]
    exact relocates_callable _ _ _
  · exact (below.eval _ scope).bind fun target => relocates_callable _ _ _

theorem pipeTarget (node : Node) (scope : Scope) :
    Eval.Relocates base (Value.above base) (level.pipeTarget node scope)
      (moved.pipeTarget node (scope.above base)) := by
  unfold Level.pipeTarget
  cases node.ident? with
  | none => exact (below.eval node scope).bind fun target => relocates_callable _ _ _
  | some name =>
      exact (Eval.Relocates.lookup scope name node.loc).bind fun target =>
        relocates_callable _ _ _

end Level.Relocates

namespace Machine

variable (machine : Machine) {level moved : Level} (below : level.Relocates base moved)

include below

theorem relocates_evalForm (head : Node) (rest : List Node) (loc : Option Span) (scope : Scope) :
    Relocates base (Value.above base) (machine.evalForm level head rest loc scope)
      (machine.evalForm moved head rest loc (scope.above base)) := by
  unfold evalForm
  split
  · exact below.evalIf scope rest
  · exact below.evalAll rest scope .null
  · exact below.evalWhen scope rest
  · cases rest with
    | nil => exact .pure rfl
    | cons condition body => exact below.evalWhile condition body scope .null machine.patience
  · exact below.evalFor loc rest scope
  · exact relocates_defineFunction loc rest scope
  · exact below.evalReturn rest scope
  · exact below.evalQuote rest scope
  · refine (below.callTarget head scope).bind fun target => ?_
    refine (below.evalEach rest scope).bind fun arguments => ?_
    exact target.relocates_call machine below arguments

theorem relocates_evalBinop (left : Node) (operator : String) (right : Node) (loc : Option Span)
    (scope : Scope) :
    Relocates base (Value.above base) (machine.evalBinop level left operator right loc scope)
      (machine.evalBinop moved left operator right loc (scope.above base)) := by
  unfold evalBinop
  split
  · cases left.ident? with
    | none => exact .fail _ _
    | some name =>
        refine (below.eval right scope).bind fun value => ?_
        exact (Relocates.assign scope name value).bind fun _ => .pure rfl
  · have newClosure : ∀ params, Relocates base (Value.above base)
        (Eval.newClosure ⟨none, params, [right], scope, .lambda⟩)
        (Eval.newClosure ⟨none, params, [right], scope.above base, .lambda⟩) :=
      fun params => .newClosure ⟨none, params, [right], scope, .lambda⟩
    dsimp only
    split
    · exact newClosure _
    · exact (relocates_parameterNames _ _).bind newClosure
    · exact .fail _ _
  · refine (below.eval left scope).bind fun value => ?_
    refine (below.pipeTarget right scope).bind fun target => ?_
    exact target.relocates_call machine below [value]
  · refine (below.eval left scope).bind fun receiver => ?_
    refine (below.memberKey right scope).bind fun key => ?_
    refine (receiver.relocates_member? key).bind fun member => .pure ?_
    exact getD_null_above base member
  · cases ValueOperator.ofSymbol? operator with
    | none => exact .fail _ _
    | some operation =>
        refine (below.eval left scope).bind fun first => ?_
        refine (below.eval right scope).bind fun second => ?_
        exact (operation.relocates_apply first second).locating loc

theorem relocates_evalNode (node : Node) (scope : Scope) :
    Relocates base (Value.above base) (machine.evalNode level node scope)
      (machine.evalNode moved node (scope.above base)) := by
  have newList : ∀ children, Relocates base (Value.above base)
      (do Eval.newList (← level.evalEach children scope).toArray)
      (do Eval.newList (← moved.evalEach children (scope.above base)).toArray) := by
    intro children
    refine (below.evalEach children scope).bind fun values => ?_
    rw [← List.map_toArray]
    exact .newList _
  unfold evalNode
  split
  · split
    · exact .pure rfl
    · exact .pure rfl
    · exact .pure rfl
    · exact .lookup scope _ _
  · exact .pure rfl
  · exact .pure rfl
  · exact .pure rfl
  · exact machine.relocates_evalBinop below _ _ _ _ scope
  · exact newList _
  · exact .pure rfl
  · exact below.eval _ scope
  · exact newList _
  · exact .fail _ _
  · exact machine.relocates_evalForm below _ _ _ scope
  · exact below.evalAll _ scope .null

end Machine

end TreeMacros
