import TreeMacros.Proofs.Store.Above

/-! # Computations that can be moved

A computation can be moved if on top of any base it does what it does on its own: it ends in the
same way, and the base stays as it is. What is put together from computations that can be moved can
be moved too. `Relocates base f action moved` says that `moved` does on top of `base` what `action`
does, where `f` says how their results differ.
-/

namespace TreeMacros

def Unwind.above (base : Store) : Unwind → Unwind
  | .returned value => .returned (value.above base)
  | .failed failure => .failed failure

namespace Eval

variable {α β γ δ : Type} (base : Store)

/-- Where a computation ends, on top of a base. -/
def endAbove (f : α → β) : EStateM.Result Unwind Store α → EStateM.Result Unwind Store β
  | .ok a store => .ok (f a) (store.above base)
  | .error unwind store => .error (unwind.above base) (store.above base)

/-- What one computation does on its own, the other does on top of a base. -/
def Relocates (f : α → β) (action : Eval α) (moved : Eval β) : Prop :=
  ∀ store : Store, moved (store.above base) = endAbove base f (action store)

namespace Relocates

variable {base} {f : α → β} {g : γ → δ} {action : Eval α} {moved : Eval β}

/-! ## Ways of putting computations together -/

theorem pure {a : α} {b : β} (same : b = f a) : Relocates base f (pure a) (pure b) := by
  subst same
  exact fun _ => rfl

theorem bind {next : α → Eval γ} {movedNext : β → Eval δ}
    (first : Relocates base f action moved)
    (rest : ∀ a, Relocates base g (next a) (movedNext (f a))) :
    Relocates base g (action >>= next) (moved >>= movedNext) := by
  intro store
  have here := first store
  simp only [Bind.bind, EStateM.bind, here]
  cases action store with
  | ok a after => exact rest a after
  | error unwind after => rfl

theorem throw (unwind : Unwind) :
    Relocates base f (MonadExcept.throw unwind) (MonadExcept.throw (unwind.above base)) :=
  fun _ => rfl

theorem fail (cause : Cause) (span : Option Span) :
    Relocates base f (Eval.fail cause span) (Eval.fail cause span) :=
  fun _ => rfl

theorem forever (what : Endless) : Relocates base f (Eval.forever what) (Eval.forever what) :=
  fun _ => rfl

theorem ofExcept (result : Except Fault α) :
    Relocates base id (Eval.ofExcept result) (Eval.ofExcept result) := by
  cases result with
  | ok a => exact .pure rfl
  | error fault => exact fun _ => rfl

theorem tryCatch {handler : Unwind → Eval α} {movedHandler : Unwind → Eval β}
    (inner : Relocates base f action moved)
    (handled : ∀ unwind, Relocates base f (handler unwind) (movedHandler (unwind.above base))) :
    Relocates base f (tryCatchThe Unwind action handler)
      (tryCatchThe Unwind moved movedHandler) := by
  intro store
  have here := inner store
  simp only [tryCatchThe, MonadExceptOf.tryCatch, EStateM.tryCatch, here]
  cases action store with
  | ok a after => rfl
  | error unwind after => exact handled unwind after

theorem locating (span : Option Span) (inner : Relocates base f action moved) :
    Relocates base f (Eval.locating span action) (Eval.locating span moved) :=
  inner.tryCatch fun unwind => by
    cases unwind with
    | returned value => exact .throw _
    | failed failure => exact .throw _

theorem catchReturn {action moved : Eval Value}
    (inner : Relocates base (Value.above base) action moved) :
    Relocates base (Value.above base) (Eval.catchReturn action) (Eval.catchReturn moved) :=
  inner.tryCatch fun unwind => by
    cases unwind with
    | returned value => exact .pure rfl
    | failed failure => exact .throw _

/-! ## Traversals -/

variable {ι κ : Type} {h : ι → κ} {act : ι → Eval α} {movedAct : κ → Eval β}

theorem mapM (steps : ∀ i, Relocates base f (act i) (movedAct (h i))) (items : List ι) :
    Relocates base (List.map f) (items.mapM act) ((items.map h).mapM movedAct) := by
  induction items with
  | nil => exact .pure rfl
  | cons item rest ih =>
      rw [List.map_cons, List.mapM_cons, List.mapM_cons]
      exact (steps item).bind fun _ => ih.bind fun _ => .pure rfl

theorem mapM_same {movedAct : ι → Eval β} (steps : ∀ i, Relocates base f (act i) (movedAct i))
    (items : List ι) :
    Relocates base (List.map f) (items.mapM act) (items.mapM movedAct) := by
  have all := Relocates.mapM (h := id) steps items
  rwa [List.map_id] at all

theorem foldlM {next : α → ι → Eval α} {movedNext : β → κ → Eval β}
    (steps : ∀ a i, Relocates base f (next a i) (movedNext (f a) (h i))) (items : List ι) (a : α) :
    Relocates base f (items.foldlM next a) ((items.map h).foldlM movedNext (f a)) := by
  induction items generalizing a with
  | nil => exact .pure rfl
  | cons item rest ih =>
      rw [List.map_cons, List.foldlM_cons, List.foldlM_cons]
      exact (steps a item).bind ih

theorem foldlM_same {next : α → ι → Eval α} {movedNext : β → ι → Eval β}
    (steps : ∀ a i, Relocates base f (next a i) (movedNext (f a) i)) (items : List ι) (a : α) :
    Relocates base f (items.foldlM next a) (items.foldlM movedNext (f a)) := by
  have all := Relocates.foldlM (h := id) steps items a
  rwa [List.map_id] at all

theorem forM {act : ι → Eval Unit} {movedAct : ι → Eval Unit}
    (steps : ∀ i, Relocates base id (act i) (movedAct i)) (items : List ι) :
    Relocates base id (items.forM act) (items.forM movedAct) := by
  induction items with
  | nil => exact .pure rfl
  | cons item rest ih => exact (steps item).bind fun _ => ih

/-! ## The store -/

theorem get : Relocates base (Store.above · base) MonadState.get MonadState.get :=
  fun _ => rfl

theorem update {change moved : Store → Store}
    (same : ∀ store : Store, moved (store.above base) = (change store).above base) :
    Relocates base id (modify change : Eval Unit) (modify moved) := by
  intro store
  exact congrArg _ (same store)

theorem allot {make : Store → α × Store} {movedMake : Store → β × Store}
    (same : ∀ store : Store,
      movedMake (store.above base) = (f (make store).1, (make store).2.above base)) :
    Relocates base f (modifyGet make : Eval α) (modifyGet movedMake) := by
  intro store
  exact congrArg (fun made : β × Store => EStateM.Result.ok made.1 made.2) (same store)

theorem newList (items : Array Value) :
    Relocates base (Value.above base) (Eval.newList items)
      (Eval.newList (items.map (Value.above base))) :=
  (allot fun store => store.newList_above base items).bind fun _ => .pure rfl

theorem newList_fixed {items : Array Value} (fixed : items.map (Value.above base) = items) :
    Relocates base (Value.above base) (Eval.newList items) (Eval.newList items) := by
  nth_rewrite 2 [← fixed]
  exact newList items

theorem newNodeList (nodes : List Node) :
    Relocates base (Value.above base) (Eval.newNodeList nodes) (Eval.newNodeList nodes) :=
  newList_fixed (by simp [Function.comp_def])

theorem items (list : ListId) :
    Relocates base (Array.map (Value.above base)) (Eval.items list)
      (Eval.items (base.lists.size + list)) :=
  get.bind fun store => .pure (store.items_above base list)

theorem modifyList (list : ListId) {change moved : Array Value → Array Value}
    (commutes : ∀ items, moved (items.map (Value.above base)) =
      (change items).map (Value.above base)) :
    Relocates base id (Eval.modifyList list change)
      (Eval.modifyList (base.lists.size + list) moved) :=
  update fun store => store.modifyList_above base list commutes

theorem newClosure (closure : Closure) :
    Relocates base (Value.above base) (Eval.newClosure closure)
      (Eval.newClosure (closure.above base)) :=
  (allot fun store => store.newIdentity_above base).bind fun _ => .pure rfl

theorem newNative (native : Native) :
    Relocates base (Value.above base) (Eval.newNative native)
      (Eval.newNative (native.above base)) :=
  (allot fun store => store.newIdentity_above base).bind fun _ => .pure rfl

theorem newScope : Relocates base (Scope.above base) Eval.newScope Eval.newScope :=
  (allot fun store => store.newFrame_above base).bind fun _ => .pure rfl

theorem newFrameIn (scope : Scope) :
    Relocates base (Scope.above base) (Eval.newFrameIn scope)
      (Eval.newFrameIn (scope.above base)) :=
  (allot fun store => store.newFrame_above base).bind fun _ => .pure rfl

theorem define (scope : Scope) (name : String) (value : Value) :
    Relocates base id (Eval.define scope name value)
      (Eval.define (scope.above base) name (value.above base)) :=
  update fun store => store.define_above base scope name value

theorem assign (scope : Scope) (name : String) (value : Value) :
    Relocates base id (Eval.assign scope name value)
      (Eval.assign (scope.above base) name (value.above base)) :=
  update fun store => store.assign_above base scope name value

theorem lookup (scope : Scope) (name : String) (span : Option Span) :
    Relocates base (Value.above base) (Eval.lookup scope name span)
      (Eval.lookup (scope.above base) name span) := by
  refine get.bind fun store => ?_
  rw [store.lookup_above]
  cases store.lookup scope name with
  | none => exact fail _ _
  | some value => exact .pure rfl

theorem textOf (value : Value) :
    Relocates base id (Eval.textOf value) (Eval.textOf (value.above base)) := by
  refine get.bind fun store => ?_
  rw [value.text?_above]
  cases value.text? store with
  | none => exact forever _
  | some text => exact .pure rfl

end Relocates

end Eval

/-! ## The level below -/

/-- What can be asked of one level, the other level does on top of a base. -/
structure Level.Relocates (base : Store) (level moved : Level) : Prop where
  eval : ∀ node scope, Eval.Relocates base (Value.above base) (level.eval node scope)
    (moved.eval node (scope.above base))
  invoke : ∀ closure arguments, Eval.Relocates base (Value.above base)
    (level.invoke closure arguments)
    (moved.invoke (closure.above base) (arguments.map (Value.above base)))
  run : ∀ definition nodes, Eval.Relocates base id (level.run definition nodes)
    (moved.run definition nodes)

namespace Level.Relocates

variable {base : Store} {level moved : Level} (below : level.Relocates base moved)

include below

theorem evalAll (body : List Node) (scope : Scope) (value : Value) :
    Eval.Relocates base (Value.above base) (level.evalAll body scope value)
      (moved.evalAll body (scope.above base) (value.above base)) :=
  Eval.Relocates.foldlM_same (fun _ statement => below.eval statement scope) body value

theorem evalEach (nodes : List Node) (scope : Scope) :
    Eval.Relocates base (List.map (Value.above base)) (level.evalEach nodes scope)
      (moved.evalEach nodes (scope.above base)) :=
  .mapM_same (fun node => below.eval node scope) nodes

end Level.Relocates

end TreeMacros
