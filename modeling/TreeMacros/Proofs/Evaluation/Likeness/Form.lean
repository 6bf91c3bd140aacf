import TreeMacros.Evaluation.Form
import TreeMacros.Proofs.Evaluation.Likeness.Function

/-! # Forms that are alike

Each form of a node goes alike if the levels below do.
-/

namespace TreeMacros

theorem Node.Like.isHole_eq {place : Option Span → Option Span → Prop} {loops : Prop}
    {node node' : Node} (like : Like place loops node node') : node.isHole = node'.isHole := by
  simp only [isHole, like.isHeaded_eq]

/-- The head of a call is a value like any other if it is no member. -/
theorem Level.callTarget_eq (level : Level) {head : Node}
    (free : ∀ left right loc, head ≠ .binop left "." right loc) (scope : Scope) :
    level.callTarget head scope = (do
      let target ← level.eval head scope
      if target.isCallable then return target else Eval.fail .callTarget head.loc) := by
  unfold Level.callTarget
  split
  · exact absurd rfl (free _ _ _)
  · rfl

namespace Likeness

variable {L : Likeness} {w v : World}

/-! ## Operations -/

theorem Agree.itemAt {target target' key key' : Value} (targets : L.Values w target target')
    (keys : L.Values w key key') :
    L.Agree w L.Values (ValueOperator.itemAt target key) (ValueOperator.itemAt target' key') := by
  unfold ValueOperator.itemAt
  rw [keys.number?_eq, keys.typeName_eq]
  cases key'.number? with
  | none => exact .fail_unplaced _
  | some place =>
      dsimp only
      cases Binary.whole? place with
      | none => exact .value .null
      | some whole =>
          cases whole with
          | negSucc i => exact .value .null
          | ofNat i =>
              have refused := targets.typeName_eq
              cases targets with
              | list list =>
                  refine (Agree.items list).bind fun v _ items items' all => .value ?_
                  simp only [Array.getD_eq_getD_getElem?, ← Array.getElem?_toList]
                  exact Values.getD (all.getElem? i)
              | text s =>
                  have character : ∀ found : Option Char,
                      L.Values w (found.elim .null fun c => .text (String.singleton c))
                        (found.elim .null fun c => .text (String.singleton c))
                    | none => .null
                    | some c => .text _
                  exact .value (character _)
              | _ =>
                  dsimp only
                  rw [refused]
                  exact .fail_unplaced _

theorem Agree.apply (operator : ValueOperator) {left left' right right' : Value}
    (lefts : L.Values w left left') (rights : L.Values w right right') :
    L.Agree w L.Values (operator.apply left right) (operator.apply left' right') := by
  have mismatch : L.Agree w L.Values
      (Eval.fail (.operandTypes operator.symbol left.typeName right.typeName))
      (Eval.fail (.operandTypes operator.symbol left'.typeName right'.typeName)) := by
    rw [lefts.typeName_eq, rights.typeName_eq]
    exact .fail_unplaced _
  cases operator with
  | equal | unequal =>
      simp only [ValueOperator.apply, lefts.same_eq rights]
      exact .value (.bool _)
  | both | either =>
      simp only [ValueOperator.apply, lefts.isTruthy_eq, rights.isTruthy_eq]
      exact .value (.bool _)
  | plus =>
      have leftText := Agree.textOf lefts
      have rightText := Agree.textOf rights
      cases lefts with
      | text a => exact rightText.ofText fun _ _ => .text _
      | number a =>
          cases rights with
          | number b => exact .value (.number _)
          | text b => exact leftText.ofText fun _ _ => .text _
          | _ => exact mismatch
      | _ =>
          cases rights with
          | text b => exact leftText.ofText fun _ _ => .text _
          | _ => exact mismatch
  | arithmetic operator =>
      cases lefts with
      | number a =>
          cases rights with
          | number b => exact .value (.number _)
          | _ => exact mismatch
      | _ => cases rights <;> exact mismatch
  | comparison operator =>
      have same : ValueOperator.compare? left right = ValueOperator.compare? left' right' := by
        cases lefts <;> cases rights <;> rfl
      simp only [ValueOperator.apply, same]
      cases ValueOperator.compare? left' right' with
      | none => exact mismatch
      | some order => exact .value (.bool _)
  | index => exact .itemAt lefts rights

/-! ## Templates -/

theorem Expansions.toList {expansion expansion' : Expansion}
    (like : L.Expansions expansion expansion') : L.AllData expansion.toList expansion'.toList := by
  cases like with
  | node like => exact .cons like .nil
  | nodes all => exact all

theorem Levels.filledHole {level level' : Level} (below : L.Levels level level') (scope : Scope)
    {children children' : List Node} (code : L.AllCode children children')
    {loc loc' : Option Span} (places : L.place loc loc') :
    L.Agree w (fun _ => L.Expansions) (fillHole level scope children loc)
      (fillHole level' scope children' loc') := by
  have expression :
      L.Code (children.getD 1 (.ident "null")) (children'.getD 1 (.ident "null")) := by
    have null : L.Code (.ident "null") (.ident "null") := .leaf _ _ (L.place_refl none)
    cases code with
    | nil => exact null
    | cons first rest =>
        cases rest with
        | nil => exact null
        | cons second _ => exact second
  exact (below.eval w expression scope).bind fun _ _ _ _ like =>
    (Agree.toExpansion like).locating places

mutual

theorem Levels.filled {level level' : Level} (below : L.Levels level level') (scope : Scope)
    {node node' : Node} (code : L.Code node node') :
    L.Agree w (fun _ => L.Expansions) (node.filled level scope) (node'.filled level' scope) := by
  cases code with
  | leaf kind text places =>
      rw [Node.filled, Node.filled]
      exact .pure fun _ _ => .node (.leaf kind text places)
  | binop lefts operator rights places =>
      rw [Node.filled, Node.filled]
      refine (filled below scope lefts).bind fun v le left left' lefts => ?_
      refine ((filled below scope rights).mono le).bind fun u _ right right' rights => ?_
      cases lefts with
      | nodes _ => exact .fail _ places
      | node lefts =>
          cases rights with
          | nodes _ => exact .fail _ places
          | node rights => exact .pure fun _ _ => .node (.binop lefts operator rights places)
  | bracket kind all places turns =>
      have holes := (Node.Like.bracket kind all places turns).isHole_eq
      rw [Node.filled, Node.filled, holes]
      split
      · exact below.filledHole scope all places
      · exact (filledAll below scope all).bind fun _ _ _ _ all =>
          .pure fun _ _ => .node (.bracket kind all places fun _ => trivial)
termination_by sizeOf node

theorem Levels.filledAll {level level' : Level} (below : L.Levels level level') (scope : Scope)
    {nodes nodes' : List Node} (code : L.AllCode nodes nodes') :
    L.Agree w (fun _ => L.AllData) (TreeMacros.filledAll level scope nodes)
      (TreeMacros.filledAll level' scope nodes') := by
  cases code with
  | nil =>
      rw [TreeMacros.filledAll, TreeMacros.filledAll]
      exact .pure fun _ _ => .nil
  | cons first rest =>
      rw [TreeMacros.filledAll, TreeMacros.filledAll]
      refine (filled below scope first).bind fun v le expansion expansion' here => ?_
      exact ((filledAll below scope rest).mono le).bind fun u _ others others' there =>
        .pure fun _ _ => List.rel_append here.toList there
termination_by sizeOf nodes

end

/-! ## Special forms -/

theorem Agree.parameterNames {nodes nodes' : List Node} (like : L.AllCode nodes nodes')
    (cause : Cause) :
    L.Agree w (fun _ => Eq) (parameterNames nodes cause)
      (TreeMacros.parameterNames nodes' cause) := by
  have names : L.Agree w (fun _ => List.Forall₂ Eq) (TreeMacros.parameterNames nodes cause)
      (TreeMacros.parameterNames nodes' cause) := by
    refine .mapM (I := fun _ => L.Code) monotone_const monotone_const
      (fun v _ node node' like => ?_) like
    rw [like.ident?_eq]
    cases node'.ident? with
    | none => exact .fail cause like.loc
    | some name => exact .same name
  rwa [List.forall₂_eq_eq_eq] at names

theorem Agree.defineFunction {parts parts' : List Node} (code : L.AllCode parts parts')
    (scope : Scope) {loc loc' : Option Span} (places : L.place loc loc') :
    L.Agree w L.Values (defineFunction loc parts scope)
      (TreeMacros.defineFunction loc' parts' scope) := by
  have malformed : L.Agree w L.Values (Eval.fail .functionForm loc)
      (Eval.fail .functionForm loc') := .fail _ places
  have made : ∀ (name : String) {params params' body body' : List Node},
      L.AllCode params params' → L.AllCode body body' →
      L.Agree w L.Values
        (do
          let params ← TreeMacros.parameterNames params .functionParameterNames
          let closure ← Eval.newClosure ⟨some name, params, body, scope, .function⟩
          Eval.assign scope name closure
          return closure)
        (do
          let params ← TreeMacros.parameterNames params' .functionParameterNames
          let closure ← Eval.newClosure ⟨some name, params, body', scope, .function⟩
          Eval.assign scope name closure
          return closure) := by
    intro name params params' body body' names code
    refine (Agree.parameterNames names _).bind fun v _ params params' same => ?_
    have closures : L.Closures ⟨some name, params, body, scope, .function⟩
        ⟨some name, params', body', scope, .function⟩ := ⟨rfl, same, code, rfl, rfl⟩
    refine (Agree.newClosure closures).bind fun u _ closure closure' like => ?_
    exact (Agree.assign scope name like).bind fun _ le _ _ _ => .value (like.mono le)
  cases code with
  | nil => exact malformed
  | cons first rest =>
      cases first with
      | leaf kind name places =>
          cases kind with
          | identifier =>
              cases rest with
              | nil => exact malformed
              | cons second body =>
                  cases second with
                  | bracket kind all places turns =>
                      cases kind with
                      | square => exact made name all body
                      | _ => exact malformed
                  | _ => exact malformed
          | _ => exact malformed
      | _ => exact malformed

/-- A value that has to be a function. -/
theorem Agree.callable {target target' : Value} (like : L.Values w target target') (cause : Cause)
    {loc loc' : Option Span} (places : L.place loc loc') :
    L.Agree w L.Values (if target.isCallable then Pure.pure target else Eval.fail cause loc)
      (if target'.isCallable then Pure.pure target' else Eval.fail cause loc') := by
  rw [like.isCallable_eq]
  split
  · exact .value like
  · exact .fail cause places

namespace Levels

variable {level level' : Level} (below : L.Levels level level')

include below

theorem evalIf (scope : Scope) {parts parts' : List Node} (code : L.AllCode parts parts') :
    L.Agree w L.Values (level.evalIf scope parts) (level'.evalIf scope parts') := by
  match code with
  | .nil => exact .value .null
  | .cons fallback .nil => exact below.eval w fallback scope
  | .cons condition (.cons branch rest) =>
      refine (below.eval w condition scope).bind fun v le value value' like => ?_
      rw [like.isTruthy_eq]
      split
      · exact below.eval v branch scope
      · exact (evalIf scope rest).mono le

theorem evalWhen (scope : Scope) {parts parts' : List Node} (code : L.AllCode parts parts') :
    L.Agree w L.Values (level.evalWhen scope parts) (level'.evalWhen scope parts') := by
  cases code with
  | nil => exact .value .null
  | cons condition body =>
      refine (below.eval w condition scope).bind fun v le value value' like => ?_
      rw [like.isTruthy_eq]
      split
      · exact below.evalAll body scope .null
      · exact .value .null

theorem evalWhile (loops : L.loops) {condition condition' : Node}
    (code : L.Code condition condition') {body body' : List Node}
    (statements : L.AllCode body body') (scope : Scope) {value value' : Value}
    (like : L.Values w value value') (patience : Nat) :
    L.Agree w L.Values (level.evalWhile condition body scope value patience)
      (level'.evalWhile condition' body' scope value' patience) := by
  induction patience generalizing w value value' with
  | zero => exact .forever _ fun _ => loops
  | succ patience ih =>
      refine (below.eval w code scope).bind fun v le truth truth' truths => ?_
      rw [truths.isTruthy_eq]
      split
      · exact (below.evalAll statements scope (like.mono le)).bind fun _ _ _ _ => ih
      · exact .value (like.mono le)

theorem turns (name : String) {body body' : List Node} (code : L.AllCode body body')
    (scope : Scope) (list : ListId) :
    L.Agree w L.Values
      (do
        (← Eval.items list).toList.foldlM (fun value item => do
          Eval.assign scope name item
          level.evalAll body scope value) Value.null)
      (do
        (← Eval.items list).toList.foldlM (fun value item => do
          Eval.assign scope name item
          level'.evalAll body' scope value) Value.null) := by
  refine (Agree.items list).bind fun v _ items items' all => ?_
  refine .foldlM Values.monotone Values.monotone
    (fun u _ value value' values item item' like => ?_) all .null
  exact (Agree.assign scope name like).bind fun _ le _ _ _ =>
    below.evalAll code scope (values.mono le)

theorem evalFor {parts parts' : List Node} (code : L.AllCode parts parts') (scope : Scope)
    {loc loc' : Option Span} (places : L.place loc loc') :
    L.Agree w L.Values (level.evalFor loc parts scope) (level'.evalFor loc' parts' scope) := by
  have malformed : L.Agree w L.Values (Eval.fail .loopVariable loc)
      (Eval.fail .loopVariable loc') := .fail _ places
  cases code with
  | nil => exact malformed
  | @cons counter counter' rest rest' first others =>
      simp only [Level.evalFor, List.head?_cons, Option.bind_some, List.getElem?_cons_succ,
        List.drop_succ_cons, first.ident?_eq]
      cases counter'.ident? with
      | none => exact malformed
      | some name =>
          cases others with
          | nil =>
              refine (Agree.newList .nil).bind fun v _ iterable iterable' like => ?_
              cases like with
              | list id => exact below.turns name .nil scope id
              | _ => exact .fail _ places
          | cons node body =>
              refine (below.eval w node scope).bind fun v _ iterable iterable' like => ?_
              cases like with
              | list id => exact below.turns name body scope id
              | _ => exact .fail _ places

theorem evalReturn {parts parts' : List Node} (code : L.AllCode parts parts') (scope : Scope) :
    L.Agree w L.Values (level.evalReturn parts scope) (level'.evalReturn parts' scope) := by
  have returned : ∀ {v : World} {value value' : Value}, L.Values v value value' →
      L.Agree v L.Values (throw (.returned value) : Eval Value) (throw (.returned value')) :=
    fun like => .throw fun _ le => .returned (like.mono le)
  cases code with
  | nil => exact (Agree.value .null).bind fun _ _ _ _ => returned
  | cons first _ => exact (below.eval w first scope).bind fun _ _ _ _ => returned

theorem evalQuote {parts parts' : List Node} (code : L.AllCode parts parts') (scope : Scope) :
    L.Agree w L.Values (level.evalQuote parts scope) (level'.evalQuote parts' scope) := by
  refine (Agree.mapM (I := fun _ => L.Code) (R := fun _ => L.Expansions) monotone_const
    monotone_const (fun v _ _ _ => below.filled scope) code).bind
      fun v _ expansions expansions' all => ?_
  cases all with
  | nil => exact .value (.node (.bracket .square .nil (L.place_refl none) fun _ => trivial))
  | cons first rest =>
      cases rest with
      | nil => exact .ofExpansion first
      | cons second rest =>
          refine .newNodeList ?_
          have flattened := List.rel_flatMap (.cons first (.cons second rest))
            fun _ _ => Expansions.toList
          exact flattened

/-! ## Calls and members -/

theorem memberKey {node node' : Node} (code : L.Code node node') (scope : Scope) :
    L.Agree w (fun _ => Eq) (level.memberKey node scope) (level'.memberKey node' scope) := by
  unfold Level.memberKey
  rw [code.ident?_eq]
  cases node'.ident? with
  | none => exact (below.eval w code scope).bind fun _ _ _ _ => .textOf
  | some name => exact .same name

theorem callTarget {head head' : Node} (code : L.Code head head') (scope : Scope) :
    L.Agree w L.Values (level.callTarget head scope) (level'.callTarget head' scope) := by
  have plain : L.Agree w L.Values
      (do
        let target ← level.eval head scope
        if target.isCallable then return target else Eval.fail .callTarget head.loc)
      (do
        let target ← level'.eval head' scope
        if target.isCallable then return target else Eval.fail .callTarget head'.loc) :=
    (below.eval w code scope).bind fun _ _ _ _ like => .callable like _ code.loc
  cases code with
  | @binop left left' lefts operator right right' rights loc loc' places =>
      by_cases dot : operator = "."
      · subst dot
        refine (below.eval w lefts scope).bind fun v _ receiver receiver' like => ?_
        refine (below.memberKey rights scope).bind fun u le key key' same => ?_
        subst same
        refine (Agree.member? (like.mono le) key).bind fun _ _ member member' members => ?_
        exact .callable (Values.getD members) _ places
      · have member : ∀ {left right loc} left' right' loc',
            Node.binop left operator right loc ≠ .binop left' "." right' loc' := by
          rintro _ _ _ _ _ _ ⟨⟩
          exact dot rfl
        rw [level.callTarget_eq member, level'.callTarget_eq member]
        exact plain
  | _ => exact plain

theorem pipeTarget {node node' : Node} (code : L.Code node node') (scope : Scope) :
    L.Agree w L.Values (level.pipeTarget node scope) (level'.pipeTarget node' scope) := by
  unfold Level.pipeTarget
  rw [code.ident?_eq]
  cases node'.ident? with
  | none => exact (below.eval w code scope).bind fun _ _ _ _ like => .callable like _ code.loc
  | some name =>
      exact (Agree.lookup scope name code.loc).bind fun _ _ _ _ like => .callable like _ code.loc

end Levels

variable {machine machine' : Machine} (machines : L.Machines machine machine')
  {level level' : Level} (below : L.Levels level level')

include machines below

theorem Machines.evalForm {head head' : Node} (code : L.Code head head') {rest rest' : List Node}
    (others : L.AllCode rest rest') (turns : head.ident? = some "while" → L.loops)
    {loc loc' : Option Span} (places : L.place loc loc') (scope : Scope) :
    L.Agree w L.Values (machine.evalForm level head rest loc scope)
      (machine'.evalForm level' head' rest' loc' scope) := by
  have call : L.Agree w L.Values
      (do
        let target ← level.callTarget head scope
        let arguments ← level.evalEach rest scope
        target.call machine level arguments)
      (do
        let target ← level'.callTarget head' scope
        let arguments ← level'.evalEach rest' scope
        target.call machine' level' arguments) := by
    refine (below.callTarget code scope).bind fun v _ target target' like => ?_
    refine (below.evalEach others scope).bind fun u le arguments arguments' all => ?_
    exact .call machines below (like.mono le) all
  have name := code.ident?_eq
  rw [name] at turns
  unfold Machine.evalForm
  rw [name]
  generalize head'.ident? = name at turns
  split
  · exact below.evalIf scope others
  · exact below.evalAll others scope .null
  · exact below.evalWhen scope others
  · cases others with
    | nil => exact .value .null
    | cons condition body =>
        dsimp only
        rw [machines.patience]
        exact below.evalWhile (turns rfl) condition body scope .null _
  · exact below.evalFor others scope places
  · exact .defineFunction others scope places
  · exact below.evalReturn others scope
  · exact below.evalQuote others scope
  · exact call

theorem Machines.evalBinop {left left' right right' : Node} (lefts : L.Code left left')
    (operator : String) (rights : L.Code right right') {loc loc' : Option Span}
    (places : L.place loc loc') (scope : Scope) :
    L.Agree w L.Values (machine.evalBinop level left operator right loc scope)
      (machine'.evalBinop level' left' operator right' loc' scope) := by
  unfold Machine.evalBinop
  split
  · rw [lefts.ident?_eq]
    cases left'.ident? with
    | none => exact .fail _ lefts.loc
    | some name =>
        refine (below.eval w rights scope).bind fun v _ value value' like => ?_
        exact (Agree.assign scope name like).bind fun _ le _ _ _ => .value (like.mono le)
  · have newClosure : ∀ params, L.Agree w L.Values
        (Eval.newClosure ⟨none, params, [right], scope, .lambda⟩)
        (Eval.newClosure ⟨none, params, [right'], scope, .lambda⟩) :=
      fun params => .newClosure ⟨rfl, rfl, .cons rights .nil, rfl, rfl⟩
    cases lefts with
    | leaf kind name places =>
        cases kind with
        | identifier => exact newClosure [name]
        | _ => exact .fail _ places
    | binop _ _ _ places => exact .fail _ places
    | bracket kind all places =>
        cases kind with
        | square =>
            refine (Agree.parameterNames all _).bind fun v le params params' same => ?_
            subst same
            exact (newClosure params).mono le
        | _ => exact .fail _ places
  · refine (below.eval w lefts scope).bind fun v le value value' like => ?_
    refine (below.pipeTarget rights scope).bind fun u later target target' targets => ?_
    exact .call machines below targets (.cons (like.mono later) .nil)
  · refine (below.eval w lefts scope).bind fun v _ receiver receiver' like => ?_
    refine (below.memberKey rights scope).bind fun u le key key' same => ?_
    subst same
    refine (Agree.member? (like.mono le) key).bind fun _ _ member member' members => ?_
    exact .value (Values.getD members)
  · cases ValueOperator.ofSymbol? operator with
    | none => exact .fail _ places
    | some operation =>
        refine (below.eval w lefts scope).bind fun v _ first first' firsts => ?_
        refine (below.eval v rights scope).bind fun u le second second' seconds => ?_
        exact (Agree.apply operation (firsts.mono le) seconds).locating places

theorem Machines.evalNode {node node' : Node} (code : L.Code node node') (scope : Scope) :
    L.Agree w L.Values (machine.evalNode level node scope)
      (machine'.evalNode level' node' scope) := by
  have newList : ∀ {children children' : List Node}, L.AllCode children children' →
      L.Agree w L.Values (do Eval.newList (← level.evalEach children scope).toArray)
        (do Eval.newList (← level'.evalEach children' scope).toArray) := fun all =>
    (below.evalEach all scope).bind fun _ _ _ _ like => .newList like
  cases code with
  | leaf kind text places =>
      cases kind with
      | identifier =>
          simp only [Machine.evalNode]
          split
          · exact .value (.bool true)
          · exact .value (.bool false)
          · exact .value .null
          · exact .lookup scope _ places
      | number => exact .value (.number _)
      | string | operator => exact .value (.text _)
  | binop lefts operator rights places =>
      exact machines.evalBinop below lefts operator rights places scope
  | bracket kind all places turns =>
      cases kind with
      | square => exact newList all
      | round =>
          match all with
          | .nil => exact .value .null
          | .cons child .nil => exact below.eval w child scope
          | .cons first (.cons second rest) => exact newList (.cons first (.cons second rest))
      | curly =>
          cases all with
          | nil => exact .fail _ places
          | cons head rest =>
              refine machines.evalForm below head rest (fun turn => turns ?_) places scope
              simpa [Node.isHeaded, Node.isIdent] using turn
      | sequence => exact below.evalAll all scope .null

end Likeness

end TreeMacros
