import TreeMacros.Proofs.Evaluation.Isolation
import TreeMacros.Proofs.Evaluation.Template
import TreeMacros.Proofs.Node.Decidable
import TreeMacros.Proofs.Value.Cycle

/-! # Values that are shown

Functions and operators that need the text of a value look for it when they are called, and so does
the message of a value that is no node. None of them ends where a value has no text, that is, where
it holds a list that is inside itself; all of them end where the values that they show hold none.
-/

namespace TreeMacros

namespace Eval

variable {α β : Type}

/-- The computation does not end, as it looks for a text that there is not. -/
def IsStuck (action : Eval α) (store : Store) : Prop :=
  action.outcome store = .error (.failed (.endless .text))

/-- The computation looks for no text. -/
def ShowsNothing (action : Eval α) : Prop :=
  ∀ store, ¬action.IsStuck store

variable {action : Eval α} {next : α → Eval β}

theorem isStuck_bind {store : Store} :
    (action >>= next).IsStuck store ↔ action.IsStuck store ∨
      ∃ a, action.outcome store = .ok a ∧ (next a).IsStuck (action.after store) := by
  unfold IsStuck
  rw [outcome_bind]
  cases action.outcome store with
  | ok a => simp [Except.bind]
  | error unwind => simp [Except.bind]

theorem ShowsNothing.bind (first : ShowsNothing action) (rest : ∀ a, ShowsNothing (next a)) :
    ShowsNothing (action >>= next) := by
  intro store stuck
  rcases isStuck_bind.mp stuck with here | ⟨a, -, there⟩
  · exact first store here
  · exact rest a _ there

namespace ShowsNothing

theorem pure (a : α) : ShowsNothing (pure a : Eval α) :=
  fun _ => nofun

theorem fail (cause : Cause) (span : Option Span) : ShowsNothing (Eval.fail cause span : Eval α) :=
  fun _ => nofun

theorem ofExcept (result : Except Fault α) : ShowsNothing (Eval.ofExcept result) := by
  cases result with
  | ok a => exact .pure a
  | error fault => exact fun _ => nofun

/-- Whatever is made of the store and done to it, this takes no text. -/
theorem update (change : Store → α × Store) : ShowsNothing (modifyGet change : Eval α) :=
  fun _ => nofun

theorem store : ShowsNothing (get : Eval Store) :=
  fun _ => nofun

theorem items (id : ListId) : ShowsNothing (Eval.items id) :=
  store.bind fun _ => .pure _

theorem modifyList (id : ListId) (change : Array Value → Array Value) :
    ShowsNothing (Eval.modifyList id change) :=
  update _

theorem newList (items : Array Value) : ShowsNothing (Eval.newList items) :=
  (update _).bind fun _ => .pure _

theorem newNodeList (nodes : List Node) : ShowsNothing (Eval.newNodeList nodes) :=
  newList _

end ShowsNothing

/-- What is done in the end does not matter here, if it looks for no text. -/
theorem isStuck_bind_iff {store : Store} (rest : ∀ a, ShowsNothing (next a)) :
    (action >>= next).IsStuck store ↔ action.IsStuck store := by
  rw [isStuck_bind]
  constructor
  · rintro (here | ⟨a, -, there⟩)
    · exact here
    · exact absurd there (rest a _)
  · exact .inl

theorem isStuck_items_bind {store : Store} {id : ListId} {next : Array Value → Eval β} :
    (items id >>= next).IsStuck store ↔ (next (store.items id)).IsStuck store :=
  Iff.rfl

variable {value : Value} {store : Store}

theorem textOf_eq : textOf value store =
    match value.text? store with
    | some text => .ok text store
    | none => .error (.failed (.endless .text)) store := by
  have read : (get : Eval Store) store = .ok store store := rfl
  simp only [textOf, Bind.bind, EStateM.bind, read]
  cases value.text? store <;> rfl

theorem isStuck_textOf : (textOf value).IsStuck store ↔ value.HoldsCycle store := by
  rw [IsStuck, outcome, textOf_eq, ← Value.text?_eq_none_iff]
  cases value.text? store <;> simp

theorem textOf_eq_ok (ends : ¬value.HoldsCycle store) :
    ∃ text, textOf value store = .ok text store := by
  obtain ⟨text, found⟩ := Value.text?_eq_some_iff.mpr ends
  exact ⟨text, by rw [textOf_eq, found]⟩

/-- Of values that are shown in a row the first one without a text is the last. -/
theorem isStuck_mapM {each : Value → Eval α}
    (shows : ∀ value, (each value).IsStuck store ↔ value.HoldsCycle store)
    (texts : ∀ value, ¬value.HoldsCycle store → ∃ a, each value store = .ok a store)
    (items : List Value) :
    (items.mapM each).IsStuck store ↔ ∃ value ∈ items, value.HoldsCycle store := by
  induction items with
  | nil => simpa using ShowsNothing.pure _ store
  | cons item rest ih =>
      rw [List.mapM_cons, isStuck_bind, shows]
      by_cases holds : item.HoldsCycle store
      · simp [holds]
      · obtain ⟨a, ended⟩ := texts item holds
        have outcome : (each item).outcome store = .ok a := by rw [Eval.outcome, ended]
        have after : (each item).after store = store := by rw [Eval.after, ended]
        have rests : (rest.mapM each >>= fun others => pure (a :: others)).IsStuck store ↔
            ∃ value ∈ rest, value.HoldsCycle store :=
          (isStuck_bind_iff fun _ => .pure _).trans ih
        simp only [outcome, after, holds, false_or, Except.ok.injEq, exists_eq_left', rests,
          List.mem_cons, exists_eq_or_imp]

end Eval

open Eval

variable {store : Store}

namespace Value

/-- A list of nodes holds no list at all. -/
theorem nodes?_of_holdsCycle {value : Value} (holds : value.HoldsCycle store) :
    value.nodes? store = none := by
  obtain ⟨id, next, rfl, contains, -⟩ := holds.step
  by_contra some
  obtain ⟨nodes, listed⟩ := Option.ne_none_iff_exists'.mp some
  rw [Store.Contains, nodes?_list_eq_some.mp listed] at contains
  simp at contains

theorem isStuck_listedNode {value : Value} :
    value.listedNode.IsStuck store ↔ value.HoldsCycle store := by
  have read : (get : Eval Store) store = .ok store store := rfl
  cases listed : value.nodes? store with
  | none =>
      have looks : value.listedNode store =
          (Eval.textOf value >>= fun text => Eval.fail (.notNode text)) store := by
        simp only [listedNode, Bind.bind, EStateM.bind, read, listed]
      rw [IsStuck, outcome, looks, ← outcome, ← IsStuck, isStuck_bind_iff fun _ => .fail _ _,
        isStuck_textOf]
  | some nodes =>
      have ends : value.listedNode.outcome store = .ok (.square nodes) := by
        simp only [outcome, listedNode, Bind.bind, EStateM.bind, read, listed]
        rfl
      refine ⟨fun stuck => ?_, fun holds => ?_⟩
      · cases ends.symm.trans stuck
      · cases listed.symm.trans (nodes?_of_holdsCycle holds)

theorem isStuck_toNode {value : Value} :
    value.toNode.IsStuck store ↔ value.HoldsCycle store := by
  cases value with
  | list | closure | native =>
      rw [← isStuck_listedNode]
      rfl
  | _ =>
      exact ⟨fun stuck => absurd stuck (ShowsNothing.pure _ _),
        fun holds => absurd holds (not_holdsCycle rfl)⟩

theorem isStuck_toExpansion {value : Value} :
    value.toExpansion.IsStuck store ↔ value.HoldsCycle store := by
  cases listed : value.nodes? store with
  | some nodes =>
      have ends : value.toExpansion.outcome store = .ok (.nodes nodes) := by
        rw [Eval.outcome, toExpansion_listed listed]
      refine ⟨fun stuck => ?_, fun holds => ?_⟩
      · cases ends.symm.trans stuck
      · cases listed.symm.trans (nodes?_of_holdsCycle holds)
  | none =>
      cases value with
      | node n =>
          exact ⟨fun stuck => absurd stuck (ShowsNothing.pure (Expansion.node n) store),
            fun holds => absurd holds (not_holdsCycle rfl)⟩
      | _ =>
          rw [IsStuck, outcome, toExpansion_coerced rfl listed, ← outcome, ← IsStuck,
            map_eq_pure_bind, isStuck_bind_iff fun _ => .pure _, isStuck_toNode]

end Value

/-! ## Functions and operators -/

variable (arguments : List Value)

/-- The values that a call of a builtin shows. -/
def Builtin.shown : Builtin → List Value → List Value
  | text, arguments | integer, arguments | float, arguments => [argument arguments 0]
  | print, arguments => arguments
  | assert, arguments =>
    if !(argument arguments 0).isTruthy && (argument arguments 1).isTruthy then
      [argument arguments 1]
    else []
  | _, _ => []

/-- The values that a call of a method of a list shows. -/
def ListMethod.shown (store : Store) : ListMethod → ListId → List Value
  | join, receiver => (store.items receiver).toList
  | _, _ => []

/-- The values that a call of a method of a text shows. -/
def TextMethod.shown : TextMethod → List Value → List Value
  | startsWith, arguments | endsWith, arguments | includes, arguments | split, arguments =>
    arguments.head?.toList
  | _, _ => []

/-- The operand that is shown: the one that is joined to a text. -/
def ValueOperator.shown : ValueOperator → Value → Value → List Value
  | plus, .text _, right => [right]
  | plus, left, .text _ => [left]
  | _, _, _ => []

theorem Eval.ShowsNothing.iff_nil {action : Eval Value} (nothing : ShowsNothing action) :
    action.IsStuck store ↔ ∃ value ∈ [], Value.HoldsCycle store value := by
  simpa using nothing store

theorem Eval.isStuck_textOf_iff_singleton {value : Value} {next : String → Eval Value}
    (rest : ∀ text, ShowsNothing (next text)) :
    (textOf value >>= next).IsStuck store ↔ ∃ v ∈ [value], v.HoldsCycle store := by
  rw [isStuck_bind_iff rest, isStuck_textOf]
  simp

theorem Builtin.isStuck_call (machine : Machine) (builtin : Builtin) :
    (builtin.call machine arguments).IsStuck store ↔
      ∃ value ∈ builtin.shown arguments, value.HoldsCycle store := by
  unfold call
  cases builtin with
  | regular => exact (ShowsNothing.store.bind fun _ => .newNodeList _).iff_nil
  | group =>
      exact (ShowsNothing.store.bind fun _ => (ShowsNothing.ofExcept _).bind fun _ =>
        .newNodeList _).iff_nil
  | parse =>
      cases argument arguments 0 with
      | text source => exact ((ShowsNothing.ofExcept _).bind fun _ => .newNodeList _).iff_nil
      | _ => exact (ShowsNothing.fail _ _).iff_nil
  | length =>
      cases argument arguments 0 with
      | list id => exact ((ShowsNothing.items id).bind fun _ => .pure _).iff_nil
      | _ => exact (ShowsNothing.pure _).iff_nil
  | text | integer | float => exact isStuck_textOf_iff_singleton fun _ => .pure _
  | list | rest | reversed => exact (ShowsNothing.store.bind fun _ => .newList _).iff_nil
  | first => exact (ShowsNothing.store.bind fun _ => .pure _).iff_nil
  | push =>
      cases argument arguments 0 with
      | list id =>
          exact ((ShowsNothing.modifyList id _).bind fun _ => (ShowsNothing.items id).bind fun _ =>
            .pure _).iff_nil
      | _ => exact (ShowsNothing.pure _).iff_nil
  | pop =>
      cases argument arguments 0 with
      | list id =>
          exact ((ShowsNothing.items id).bind fun _ => (ShowsNothing.modifyList id _).bind fun _ =>
            .pure _).iff_nil
      | _ => exact (ShowsNothing.pure _).iff_nil
  | range =>
      dsimp only
      split
      · exact (ShowsNothing.newList _).iff_nil
      · exact ShowsNothing.iff_nil fun _ => nofun
  | map => exact (ShowsNothing.newList _).iff_nil
  | print =>
      refine (isStuck_bind_iff fun _ => (ShowsNothing.update _).bind fun _ => .pure _).trans ?_
      exact isStuck_mapM (fun _ => isStuck_textOf) (fun _ => textOf_eq_ok) arguments
  | assert =>
      dsimp only [shown]
      cases (argument arguments 0).isTruthy with
      | true => exact (ShowsNothing.pure _).iff_nil
      | false =>
          cases (argument arguments 1).isTruthy with
          | true => exact isStuck_textOf_iff_singleton fun _ => .fail _ _
          | false => exact (ShowsNothing.fail _ _).iff_nil
  | isInstance => exact (ShowsNothing.pure _).iff_nil

theorem ListMethod.isStuck_call (method : ListMethod) (receiver : ListId) :
    (method.call receiver arguments).IsStuck store ↔
      ∃ value ∈ method.shown store receiver, value.HoldsCycle store := by
  cases method with
  | push =>
      exact ((ShowsNothing.modifyList _ _).bind fun _ => (ShowsNothing.items _).bind fun _ =>
        .pure _).iff_nil
  | pop =>
      exact ((ShowsNothing.items _).bind fun _ => (ShowsNothing.modifyList _ _).bind fun _ =>
        .pure _).iff_nil
  | slice => exact ((ShowsNothing.items _).bind fun _ => .newList _).iff_nil
  | concat => exact (ShowsNothing.store.bind fun _ => .newList _).iff_nil
  | includes => exact ((ShowsNothing.items _).bind fun _ => .pure _).iff_nil
  | indexOf =>
      refine ((ShowsNothing.items _).bind fun items => ?_).iff_nil
      split <;> exact .pure _
  | join =>
      refine (isStuck_items_bind.trans (isStuck_bind_iff fun _ => .pure _)).trans ?_
      refine isStuck_mapM (fun item => ?_) (fun item ends => ?_) _
      · cases item with
        | null =>
            exact ⟨fun stuck => absurd stuck (ShowsNothing.pure _ _),
              fun holds => absurd holds (Value.not_holdsCycle rfl)⟩
        | _ => exact isStuck_textOf
      · cases item with
        | null => exact ⟨"", rfl⟩
        | _ => exact textOf_eq_ok ends
  | reverse => exact ((ShowsNothing.modifyList _ _).bind fun _ => .pure _).iff_nil

theorem TextMethod.isStuck_argumentText_bind {next : List Char → Eval Value}
    (rest : ∀ text, ShowsNothing (next text)) :
    (argumentText arguments >>= next).IsStuck store ↔
      ∃ value ∈ arguments.head?.toList, value.HoldsCycle store := by
  rw [isStuck_bind_iff rest]
  cases arguments with
  | nil => simpa [argumentText] using ShowsNothing.pure _ store
  | cons first others =>
      have shows : (argumentText (first :: others)).IsStuck store ↔ first.HoldsCycle store :=
        (isStuck_bind_iff fun _ => .pure _).trans isStuck_textOf
      simpa using shows

theorem TextMethod.isStuck_call (method : TextMethod) (receiver : String) :
    (method.call receiver arguments).IsStuck store ↔
      ∃ value ∈ method.shown arguments, value.HoldsCycle store := by
  cases method with
  | upper | lower | slice => exact (ShowsNothing.pure _).iff_nil
  | startsWith | endsWith | includes => exact isStuck_argumentText_bind arguments fun _ => .pure _
  | split =>
      unfold call
      dsimp only [shown]
      split
      · next absent =>
          rw [absent]
          exact (ShowsNothing.newList _).iff_nil
      · next null =>
          have ends : ¬Value.null.HoldsCycle store := Value.not_holdsCycle rfl
          simpa [null, ends] using ShowsNothing.newList _ store
      · exact isStuck_argumentText_bind arguments fun _ => .newList _

theorem ValueOperator.isStuck_apply (operator : ValueOperator) (left right : Value) :
    (operator.apply left right).IsStuck store ↔
      ∃ value ∈ operator.shown left right, value.HoldsCycle store := by
  cases operator with
  | equal | unequal | both | either => exact (ShowsNothing.pure _).iff_nil
  | plus =>
      cases left with
      | text a => exact isStuck_textOf_iff_singleton fun _ => .pure _
      | number a =>
          cases right with
          | text b => exact isStuck_textOf_iff_singleton fun _ => .pure _
          | number b => exact (ShowsNothing.pure _).iff_nil
          | _ => exact (ShowsNothing.fail _ _).iff_nil
      | _ =>
          cases right with
          | text b => exact isStuck_textOf_iff_singleton fun _ => .pure _
          | _ => exact (ShowsNothing.fail _ _).iff_nil
  | arithmetic operator =>
      refine ShowsNothing.iff_nil ?_
      unfold apply
      dsimp only
      split
      · exact .pure _
      · exact .fail _ _
  | comparison operator =>
      refine ShowsNothing.iff_nil ?_
      unfold apply
      dsimp only
      split
      · exact .pure _
      · exact .fail _ _
  | index =>
      refine ShowsNothing.iff_nil ?_
      unfold apply itemAt
      dsimp only
      split
      · exact .fail _ _
      · split
        · split
          · exact (ShowsNothing.items _).bind fun _ => .pure _
          · exact .pure _
          · exact .fail _ _
        · exact .pure _

/-- Null stands for an argument that is missing, and holds nothing. -/
theorem argument_mem_of_holdsCycle {arguments : List Value} {place : Nat}
    (holds : (argument arguments place).HoldsCycle store) :
    argument arguments place ∈ arguments := by
  unfold argument at holds ⊢
  rw [List.getD_eq_getElem?_getD] at holds ⊢
  cases found : arguments[place]? with
  | none =>
      rw [found] at holds
      exact absurd holds (Value.not_holdsCycle rfl)
  | some value => exact List.mem_of_getElem? found

theorem NodeMaker.isStuck_call {maker : NodeMaker}
    (stuck : (maker.call arguments).IsStuck store) :
    ∃ value ∈ arguments, value.HoldsCycle store := by
  have given {place : Nat} (holds : (argument arguments place).HoldsCycle store) :
      ∃ value ∈ arguments, value.HoldsCycle store :=
    ⟨_, argument_mem_of_holdsCycle holds, holds⟩
  cases maker with
  | leaf kind => exact given (isStuck_textOf.mp ((isStuck_bind_iff fun _ => .pure _).mp stuck))
  | binop =>
      rcases isStuck_bind.mp stuck with left | ⟨_, -, stuck⟩
      · exact given (Value.isStuck_toNode.mp left)
      rw [(Eval.ReadsOnly.toNode _).after_eq] at stuck
      rcases isStuck_bind.mp stuck with right | ⟨_, -, stuck⟩
      · exact given (Value.isStuck_toNode.mp right)
      rw [(Eval.ReadsOnly.toNode _).after_eq] at stuck
      exact given (isStuck_textOf.mp ((isStuck_bind_iff fun _ => .pure _).mp stuck))
  | bracket kind => exact absurd stuck ((ShowsNothing.store.bind fun _ => .pure _) _)

theorem Level.isStuck_memberKey (level : Level) (node : Node) (scope : Scope) :
    (level.memberKey node scope).IsStuck store ↔ node.ident? = none ∧
      ((level.eval node scope).IsStuck store ∨ ∃ value,
        (level.eval node scope).outcome store = .ok value ∧
        value.HoldsCycle ((level.eval node scope).after store)) := by
  unfold memberKey
  cases node.ident? with
  | some name => simpa using ShowsNothing.pure name store
  | none =>
      dsimp only
      simp only [isStuck_bind, isStuck_textOf, true_and]

/-- A value has a text if and only if it holds no list that is inside itself; else there is none at
    any depth. A call of a builtin, an operator, a method, or a coercion to nodes ends if and only
    if the values that it shows have texts, and to name a member by a value ends if and only if
    evaluating this value does and it has a text. -/
theorem texts_end_iff_acyclic (machine : Machine) (level : Level) (store : Store) :
    (∀ value : Value, (∃ text, value.text? store = some text) ↔ ¬value.HoldsCycle store) ∧
    (∀ value : Value, value.HoldsCycle store →
      ∀ depth, value.textWithin? store depth = none) ∧
    (∀ (builtin : Builtin) arguments,
      (builtin.call machine arguments).IsStuck store ↔
        ∃ value ∈ builtin.shown arguments, value.HoldsCycle store) ∧
    (∀ (operator : ValueOperator) left right,
      (operator.apply left right).IsStuck store ↔
        ∃ value ∈ operator.shown left right, value.HoldsCycle store) ∧
    (∀ (method : ListMethod) receiver arguments,
      (method.call receiver arguments).IsStuck store ↔
        ∃ value ∈ method.shown store receiver, value.HoldsCycle store) ∧
    (∀ (method : TextMethod) receiver arguments,
      (method.call receiver arguments).IsStuck store ↔
        ∃ value ∈ method.shown arguments, value.HoldsCycle store) ∧
    (∀ (maker : NodeMaker) arguments,
      (maker.call arguments).IsStuck store →
        ∃ value ∈ arguments, value.HoldsCycle store) ∧
    (∀ node scope,
      (level.memberKey node scope).IsStuck store ↔ node.ident? = none ∧
        ((level.eval node scope).IsStuck store ∨ ∃ value,
          (level.eval node scope).outcome store = .ok value ∧
          value.HoldsCycle ((level.eval node scope).after store))) ∧
    (∀ value : Value, value.toNode.IsStuck store ↔ value.HoldsCycle store) ∧
    ∀ value : Value, value.toExpansion.IsStuck store ↔ value.HoldsCycle store :=
  ⟨fun _ => Value.text?_eq_some_iff,
    fun _ holds => holds.textless,
    fun builtin arguments => builtin.isStuck_call arguments machine,
    fun operator => operator.isStuck_apply,
    fun method receiver arguments => method.isStuck_call arguments receiver,
    fun method receiver arguments => method.isStuck_call arguments receiver,
    fun _ arguments => NodeMaker.isStuck_call arguments,
    level.isStuck_memberKey,
    fun _ => Value.isStuck_toNode,
    fun _ => Value.isStuck_toExpansion⟩

/-- A macro that pushes a list to itself and prints it does not end. -/
theorem print_endless :
    let xs : Node := .ident "xs"
    let body := [.binary xs "=" (.square []), .curly [.ident "push", xs, xs],
      .curly [.ident "print", xs]]
    ({} : Machine).run ⟨[], body⟩ [] = .error (.endless .text) := by
  intro xs body
  decide +kernel

end TreeMacros
