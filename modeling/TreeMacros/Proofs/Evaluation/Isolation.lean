import TreeMacros.Proofs.Evaluation.Relocation.Level

/-! # Macros run on their own

A run of a macro is given nodes, and makes every list and frame that it works on. So it leaves the
lists and frames that were there before as they are, and ends in the same way whatever they are. A
macro that calls another one by name gets a node from it, or a new list of nodes.
-/

namespace TreeMacros

namespace Eval

variable {α β : Type}

/-! ## Computations that only read -/

/-- The computation does not change the store, and no returned value leaves it. -/
def ReadsOnly (action : Eval α) : Prop :=
  ∀ store, (∃ a, action store = .ok a store) ∨
    ∃ failure, action store = .error (.failed failure) store

namespace ReadsOnly

variable {action : Eval α}

theorem pure (a : α) : ReadsOnly (pure a : Eval α) :=
  fun _ => .inl ⟨a, rfl⟩

theorem fail (cause : Cause) (span : Option Span) : ReadsOnly (Eval.fail cause span : Eval α) :=
  fun _ => .inr ⟨_, rfl⟩

theorem store : ReadsOnly (get : Eval Store) :=
  fun store => .inl ⟨store, rfl⟩

theorem bind {next : α → Eval β} (first : ReadsOnly action) (rest : ∀ a, ReadsOnly (next a)) :
    ReadsOnly (action >>= next) := by
  intro store
  simp only [Bind.bind, EStateM.bind]
  rcases first store with ⟨a, ended⟩ | ⟨failure, ended⟩
  · rw [ended]
    exact rest a store
  · rw [ended]
    exact .inr ⟨failure, rfl⟩

theorem mapM {ι : Type} {each : ι → Eval α} (steps : ∀ i, ReadsOnly (each i)) (items : List ι) :
    ReadsOnly (items.mapM each) := by
  induction items with
  | nil => exact .pure []
  | cons item rest ih =>
      rw [List.mapM_cons]
      exact (steps item).bind fun _ => ih.bind fun _ => .pure _

theorem textOf (value : Value) : ReadsOnly (Eval.textOf value) := by
  refine store.bind fun store => ?_
  cases value.text? store with
  | none => exact fun _ => .inr ⟨_, rfl⟩
  | some text => exact .pure text

theorem toNode (value : Value) : ReadsOnly value.toNode := by
  rcases value.toNode_eq with ⟨node, same⟩ | same
  · rw [same]
    exact .pure node
  · rw [same]
    refine store.bind fun store => ?_
    cases value.nodes? store with
    | none => exact (textOf value).bind fun _ => .fail _ _
    | some nodes => exact .pure _

theorem toExpansion (value : Value) : ReadsOnly value.toExpansion := by
  refine store.bind fun store => ?_
  split
  · exact .pure _
  · exact .pure _
  · exact (toNode _).bind fun _ => .pure _

end ReadsOnly

/-! ## Computations that keep returned values -/

/-- No returned value leaves the computation. -/
def Confined (action : Eval α) : Prop :=
  ∀ store value after, action store ≠ .error (.returned value) after

theorem ReadsOnly.confined {action : Eval α} (reads : ReadsOnly action) : Confined action := by
  intro store value after returned
  rcases reads store with ⟨a, ended⟩ | ⟨failure, ended⟩
  · cases ended.symm.trans returned
  · cases ended.symm.trans returned

namespace Confined

theorem bind {action : Eval α} {next : α → Eval β} (first : Confined action)
    (rest : ∀ a, Confined (next a)) : Confined (action >>= next) := by
  intro store value after returned
  simp only [Bind.bind, EStateM.bind] at returned
  cases ended : action store with
  | ok a middle =>
      rw [ended] at returned
      exact rest a middle value after returned
  | error unwind middle =>
      rw [ended] at returned
      cases returned
      exact first store value after ended

theorem allot (make : Store → α × Store) : Confined (modifyGet make : Eval α) :=
  fun _ _ _ => nofun

theorem newNative (native : Native) : Confined (Eval.newNative native) :=
  (allot _).bind fun _ => (ReadsOnly.pure _).confined

theorem newNodeList (nodes : List Node) : Confined (Eval.newNodeList nodes) :=
  (allot _).bind fun _ => (ReadsOnly.pure _).confined

theorem forM {ι : Type} {each : ι → Eval Unit} (steps : ∀ i, Confined (each i)) (items : List ι) :
    Confined (items.forM each) := by
  induction items with
  | nil => exact (ReadsOnly.pure ()).confined
  | cons item rest ih => exact (steps item).bind fun _ => ih

theorem catchReturn (action : Eval Value) : Confined (Eval.catchReturn action) := by
  intro store value after returned
  simp only [Eval.catchReturn, tryCatch, tryCatchThe, MonadExceptOf.tryCatch,
    EStateM.tryCatch] at returned
  cases ended : action store with
  | ok a middle => simp [ended] at returned
  | error unwind middle =>
      rw [ended] at returned
      cases unwind with
      | returned value => cases returned
      | failed failure => cases returned

theorem newBaseScope : Confined Eval.newBaseScope := by
  refine ((allot _).bind fun _ => (ReadsOnly.pure _).confined).bind fun scope => ?_
  refine (forM (fun b => (newNative _).bind fun _ => allot _) _).bind fun _ => ?_
  refine (forM (fun m => (newNative _).bind fun _ => allot _) _).bind fun _ => ?_
  exact (ReadsOnly.pure _).confined

theorem bindArguments (scope : Scope) (params : List String) (nodes : List Node) :
    Confined (TreeMacros.bindArguments scope params nodes) := by
  have each : ∀ names nodes, Confined (defineParameters scope names nodes) := by
    intro names
    induction names with
    | nil => exact fun _ => (ReadsOnly.pure ()).confined
    | cons name rest ih => exact fun nodes => (allot _).bind fun _ => ih _
  match params with
  | [only] => exact (newNodeList nodes).bind fun _ => allot _
  | [] | _ :: _ :: _ => exact each _ nodes

end Confined

end Eval

/-- `return` ends a macro, and not the code that runs it. -/
theorem Machine.confined_run (machine : Machine) (depth : Nat) (definition : Definition)
    (nodes : List Node) : Eval.Confined ((machine.level depth).run definition nodes) := by
  cases depth with
  | zero => exact (Eval.ReadsOnly.fail _ _).confined
  | succ depth =>
      unfold level
      dsimp only
      unfold inTime
      cases machine.deadlinePassed with
      | true => exact (Eval.ReadsOnly.fail _ _).confined
      | false =>
          refine Eval.Confined.newBaseScope.bind fun outside => ?_
          refine ((Eval.Confined.allot _).bind fun _ =>
            (Eval.ReadsOnly.pure _).confined).bind fun scope => ?_
          refine (Eval.Confined.bindArguments scope _ nodes).bind fun _ => ?_
          refine (Eval.Confined.forM (fun entry => (Eval.Confined.newNative _).bind fun _ =>
            .allot _) _).bind fun _ => ?_
          refine (Eval.Confined.catchReturn _).bind fun value => ?_
          exact (Eval.ReadsOnly.toExpansion value).confined

/-! ## Isolation -/

/-- Every list and every frame of a store is in another one as it was. -/
structure Store.Extends (after before : Store) : Prop where
  lists : ∀ id < before.lists.size, after.lists[id]? = before.lists[id]?
  frames : ∀ id < before.frames.size, after.frames[id]? = before.frames[id]?

namespace Store

variable (store : Store)

theorem extends_refl : store.Extends store :=
  ⟨fun _ _ => rfl, fun _ _ => rfl⟩

theorem extends_above (base : Store) : (store.above base).Extends base := by
  constructor
  · intro id there
    exact Array.getElem?_append_left there
  · intro id there
    exact Array.getElem?_append_left there

theorem Extends.newList {after before : Store} (kept : after.Extends before)
    (items : Array Value) :
    (after.newList items).2.Extends before ∧ before.lists.size ≤ after.lists.size := by
  have there : ∀ id < before.lists.size, id < after.lists.size := by
    intro id old
    have same := kept.lists id old
    rw [Array.getElem?_eq_getElem old] at same
    exact (Array.getElem?_eq_some_iff.mp same).1
  constructor
  · refine ⟨fun id old => ?_, kept.frames⟩
    rw [← kept.lists id old, Array.getElem?_eq_getElem (there id old)]
    exact Array.getElem?_push_lt (there id old)
  · exact Nat.le_of_not_lt fun less => Nat.lt_irrefl _ (there _ less)

theorem items_newList (items : Array Value) :
    (store.newList items).2.items store.lists.size = items := by
  simp [newList, Store.items]

end Store

namespace Eval

variable {α β : Type} (action : Eval α) (next : α → Eval β) (store : Store)

/-- What a computation ends in. -/
def outcome : Except Unwind α :=
  match action store with
  | .ok a _ => .ok a
  | .error unwind _ => .error unwind

/-- The store in which a computation ends. -/
def after : Store :=
  match action store with
  | .ok _ after | .error _ after => after

variable {action} in
theorem ReadsOnly.after_eq (reads : ReadsOnly action) : action.after store = store := by
  unfold after
  rcases reads store with ⟨a, ended⟩ | ⟨failure, ended⟩ <;> rw [ended]

theorem outcome_bind :
    (action >>= next).outcome store =
      (action.outcome store).bind fun a => (next a).outcome (action.after store) := by
  simp only [outcome, after, Bind.bind, EStateM.bind]
  cases action store <;> rfl

theorem after_bind :
    (action >>= next).after store =
      match action.outcome store with
      | .ok a => (next a).after (action.after store)
      | .error _ => action.after store := by
  simp only [outcome, after, Bind.bind, EStateM.bind]
  cases action store <;> rfl

end Eval

/-- On top of a store a run does what it does on its own. -/
theorem Machine.run_above (machine : Machine) (depth : Nat) (definition : Definition)
    (nodes : List Node) (store : Store) :
    let run := (machine.level depth).run definition nodes
    run.outcome store = run.outcome {} ∧ run.after store = (run.after {}).above store := by
  intro run
  -- what is on top of `store` before the run is the empty store, so that it runs in `store`
  have moved := (machine.relocates_level store depth).run definition nodes {}
  rw [Store.empty_above] at moved
  have confined := machine.confined_run depth definition nodes {}
  unfold Eval.outcome Eval.after
  simp only [run, moved]
  cases ended : (machine.level depth).run definition nodes {} with
  | ok expansion after => exact ⟨rfl, rfl⟩
  | error unwind after =>
      cases unwind with
      | returned value =>
          -- its list would have another place in another store
          exact absurd ended (confined value after)
      | failed failure => exact ⟨rfl, rfl⟩

theorem Machine.run_extends (machine : Machine) (depth : Nat) (definition : Definition)
    (nodes : List Node) (store : Store) :
    (((machine.level depth).run definition nodes).after store).Extends store := by
  rw [(machine.run_above depth definition nodes store).2]
  exact Store.extends_above _ store

/-- A run of a macro leaves all lists and frames as they were, however it ends, and how it ends
    does not depend on them. So a macro that another one calls by name is given nodes, and gives
    back a node or a new list of nodes. -/
theorem run_isolated (machine : Machine) (depth : Nat) (definition : Definition) :
    let level := machine.level depth
    (∀ nodes store, ((level.run definition nodes).after store).Extends store) ∧
    (∀ nodes store other,
      (level.run definition nodes).outcome store = (level.run definition nodes).outcome other) ∧
    ∀ identity name arguments caller,
      let callee := Value.native identity (.registered name (.defined definition))
      let called := callee.call machine level arguments
      (called.after caller).Extends caller ∧
      match (arguments.mapM Value.toNode).outcome caller with
      | .error unwind => called.outcome caller = .error unwind
      | .ok nodes =>
        match (level.run definition nodes).outcome {} with
        | .error unwind => called.outcome caller = .error unwind
        | .ok (.node n) => called.outcome caller = .ok (.node n)
        | .ok (.nodes ns) => ∃ id ≥ caller.lists.size, called.outcome caller = .ok (.list id) ∧
            (called.after caller).items id = (ns.map Value.node).toArray := by
  intro level
  have same := machine.run_above depth definition
  refine ⟨machine.run_extends depth definition, fun nodes store other => ?_, ?_⟩
  · exact (same nodes store).1.trans (same nodes other).1.symm
  intro identity name arguments caller callee called
  have steps : called = (arguments.mapM Value.toNode >>= fun nodes =>
      level.run definition nodes >>= Value.ofExpansion) := rfl
  -- the arguments are all of the caller's that the run gets
  have reads := Eval.ReadsOnly.mapM Eval.ReadsOnly.toNode arguments
  rw [steps, Eval.outcome_bind, Eval.after_bind, reads.after_eq]
  cases (arguments.mapM Value.toNode).outcome caller with
  | error unwind => exact ⟨caller.extends_refl, rfl⟩
  | ok nodes =>
      have kept := machine.run_extends depth definition nodes caller
      simp only [Except.bind]
      rw [Eval.outcome_bind, Eval.after_bind, (same nodes caller).1]
      cases (level.run definition nodes).outcome {} with
      | error unwind => exact ⟨kept, rfl⟩
      | ok expansion =>
          cases expansion with
          | node n => exact ⟨kept, rfl⟩
          | nodes ns =>
              obtain ⟨made, fresh⟩ := kept.newList (ns.map Value.node).toArray
              exact ⟨made, _, fresh, rfl, Store.items_newList _ _⟩

end TreeMacros
