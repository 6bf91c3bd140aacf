import Mathlib.Order.Monotone.Basic
import TreeMacros.Proofs.Evaluation.Likeness

/-! # Computations that are alike

Two computations agree if from stores that are alike they end alike. What is put together from
computations that agree agrees too. Values of before stay alike when functions are made: so an
agreement holds in a world and all later ones, and what is known of a value is carried over.
-/

namespace TreeMacros.Likeness

variable {w v : World}

variable (L : Likeness) {α β γ δ : Type}

inductive Unwinds (w : World) : Unwind → Unwind → Prop
  | returned {value value' : Value} (like : L.Values w value value') :
      Unwinds w (.returned value) (.returned value')
  | fault {f f' : Fault} (like : L.fault f f') :
      Unwinds w (.failed (.fault f)) (.failed (.fault f'))
  | endless (what : Endless) (turns : what = .loop → L.loops) :
      Unwinds w (.failed (.endless what)) (.failed (.endless what))

/-- Where two computations end. -/
inductive Ends (w : World) (R : World → α → β → Prop) :
    EStateM.Result Unwind Store α → EStateM.Result Unwind Store β → Prop
  | ok {v : World} (le : w ≤ v) {store store' : Store} (stores : L.Stores v store store')
      {a : α} {b : β} (results : R v a b) : Ends w R (.ok a store) (.ok b store')
  | error {v : World} (le : w ≤ v) {store store' : Store} (stores : L.Stores v store store')
      {unwind unwind' : Unwind} (unwinds : L.Unwinds v unwind unwind') :
      Ends w R (.error unwind store) (.error unwind' store')
  | excused {failure : Failure} (excuse : L.excuses failure) (store : Store)
      (result : EStateM.Result Unwind Store β) : Ends w R (.error (.failed failure) store) result

/-- From stores that are alike, the computations go alike, in every world from `w` on. -/
def Agree (w : World) (R : World → α → β → Prop) (action : Eval α) (action' : Eval β) : Prop :=
  ∀ v, w ≤ v → ∀ store store', L.Stores v store store' → L.Ends v R (action store) (action' store')

variable {L} {R : World → α → β → Prop} {S : World → γ → δ → Prop}

theorem Ends.weaken (le : w ≤ v) {result : EStateM.Result Unwind Store α}
    {result' : EStateM.Result Unwind Store β} (ends : L.Ends v R result result') :
    L.Ends w R result result' := by
  cases ends with
  | ok later stores results => exact .ok (le.trans later) stores results
  | error later stores unwinds => exact .error (le.trans later) stores unwinds
  | excused excuse => exact .excused excuse _ _

namespace Agree

variable {action : Eval α} {action' : Eval β}

theorem mono (le : w ≤ v) (agree : L.Agree w R action action') : L.Agree v R action action' :=
  fun u later => agree u (le.trans later)

theorem pure {a : α} {b : β} (results : ∀ v, w ≤ v → R v a b) :
    L.Agree w R (pure a) (pure b) :=
  fun v le _ _ stores => .ok le_rfl stores (results v le)

theorem same (a : α) : L.Agree w (fun _ => Eq) (Pure.pure a) (Pure.pure a) :=
  pure fun _ _ => rfl

theorem value {a a' : Value} (like : L.Values w a a') :
    L.Agree w L.Values (Pure.pure a) (Pure.pure a') :=
  pure fun _ le => like.mono le

theorem bind {next : α → Eval γ} {next' : β → Eval δ} (first : L.Agree w R action action')
    (rest : ∀ v, w ≤ v → ∀ a b, R v a b → L.Agree v S (next a) (next' b)) :
    L.Agree w S (action >>= next) (action' >>= next') := by
  intro v le store store' stores
  have ends := first v le store store' stores
  simp only [Bind.bind, EStateM.bind]
  generalize action store = result, action' store' = result' at ends
  cases ends with
  | ok later stores results =>
      exact (rest _ (le.trans later) _ _ results _ le_rfl _ _ stores).weaken later
  | error later stores unwinds => exact .error later stores unwinds
  | excused excuse => exact .excused excuse _ _

theorem throw {unwind unwind' : Unwind} (unwinds : ∀ v, w ≤ v → L.Unwinds v unwind unwind') :
    L.Agree w R (MonadExcept.throw unwind) (MonadExcept.throw unwind') :=
  fun v le _ _ stores => .error le_rfl stores (unwinds v le)

theorem fail (cause : Cause) {span span' : Option Span} (places : L.place span span') :
    L.Agree w R (Eval.fail cause span) (Eval.fail cause span') :=
  throw fun _ _ => .fault (L.fault_of cause places)

theorem fail_unplaced (cause : Cause) : L.Agree w R (Eval.fail cause) (Eval.fail cause) :=
  fail cause (L.place_refl none)

theorem forever (what : Endless) (turns : what = .loop → L.loops) :
    L.Agree w R (Eval.forever what) (Eval.forever what) :=
  throw fun _ _ => .endless what turns

theorem ofExcept {r : α → β → Prop} {result : Except Fault α} {result' : Except Fault β}
    (like : Except.Like L.fault r result result') :
    L.Agree w (fun _ => r) (Eval.ofExcept result) (Eval.ofExcept result') := by
  cases like with
  | ok results => exact pure fun _ _ => results
  | error faults => exact throw fun _ _ => .fault faults

theorem locating {span span' : Option Span} (places : L.place span span')
    (inner : L.Agree w R action action') :
    L.Agree w R (Eval.locating span action) (Eval.locating span' action') := by
  intro v le store store' stores
  have ends := inner v le store store' stores
  simp only [Eval.locating, MonadExcept.tryCatch, tryCatchThe, MonadExceptOf.tryCatch,
    EStateM.tryCatch]
  generalize action store = result, action' store' = result' at ends
  cases ends with
  | ok later stores results => exact .ok later stores results
  | error later stores unwinds =>
      cases unwinds with
      | returned like => exact .error later stores (.returned like)
      | fault like => exact .error later stores (.fault (L.fault_locate like places))
      | endless what turns => exact .error later stores (.endless what turns)
  | excused excuse => exact .excused (L.excuses_locate span excuse) _ _

theorem catchReturn {action action' : Eval Value} (inner : L.Agree w L.Values action action') :
    L.Agree w L.Values (Eval.catchReturn action) (Eval.catchReturn action') := by
  intro v le store store' stores
  have ends := inner v le store store' stores
  simp only [Eval.catchReturn, MonadExcept.tryCatch, tryCatchThe, MonadExceptOf.tryCatch,
    EStateM.tryCatch]
  generalize action store = result, action' store' = result' at ends
  cases ends with
  | ok later stores results => exact .ok later stores results
  | error later stores unwinds =>
      cases unwinds with
      | returned like => exact .ok later stores like
      | fault like => exact .error later stores (.fault like)
      | endless what turns => exact .error later stores (.endless what turns)
  | excused excuse => exact .excused excuse _ _

/-! ## Traversals -/

section Traversals

variable {ι κ : Type} {I : World → ι → κ → Prop} (monotone : Monotone I)

include monotone

theorem mapM (results : Monotone R) {act : ι → Eval α} {act' : κ → Eval β}
    (steps : ∀ v, w ≤ v → ∀ i i', I v i i' → L.Agree v R (act i) (act' i')) {items : List ι}
    {items' : List κ} (like : List.Forall₂ (I w) items items') :
    L.Agree w (fun v => List.Forall₂ (R v)) (items.mapM act) (items'.mapM act') := by
  induction items generalizing w items' with
  | nil =>
      cases like
      exact pure fun _ _ => .nil
  | cons item rest ih =>
      cases like with
      | cons first others =>
          rw [List.mapM_cons, List.mapM_cons]
          refine (steps w le_rfl _ _ first).bind fun v le a b result => ?_
          have others := others.imp fun i i' => monotone le i i'
          refine (ih (fun u later => steps u (le.trans later)) others).bind
            fun u later as bs all => pure fun t latest => ?_
          have le := later.trans latest
          exact .cons (results le _ _ result) (all.imp fun a b => results latest a b)

theorem foldlM (results : Monotone R) {next : α → ι → Eval α} {next' : β → κ → Eval β}
    (steps : ∀ v, w ≤ v → ∀ a b, R v a b → ∀ i i', I v i i' →
      L.Agree v R (next a i) (next' b i')) {items : List ι} {items' : List κ}
    (like : List.Forall₂ (I w) items items') {a : α} {b : β} (start : R w a b) :
    L.Agree w R (items.foldlM next a) (items'.foldlM next' b) := by
  induction items generalizing w items' a b with
  | nil =>
      cases like
      exact pure fun _ le => results le _ _ start
  | cons item rest ih =>
      cases like with
      | cons first others =>
          rw [List.foldlM_cons, List.foldlM_cons]
          refine (steps w le_rfl _ _ start _ _ first).bind fun v le a b result => ?_
          have others := others.imp fun i i' => monotone le i i'
          exact ih (fun u later => steps u (le.trans later)) others result

omit monotone

theorem forM {act act' : ι → Eval Unit}
    (steps : ∀ i v, w ≤ v → L.Agree v (fun _ => Eq) (act i) (act' i)) (items : List ι) :
    L.Agree w (fun _ => Eq) (items.forM act) (items.forM act') := by
  induction items generalizing w with
  | nil => exact same ()
  | cons item rest ih =>
      exact (steps item w le_rfl).bind fun v le _ _ _ =>
        ih fun i u later => steps i u (le.trans later)

end Traversals

/-! ## The store -/

theorem get : L.Agree w (fun v => L.Stores v) MonadState.get MonadState.get :=
  fun _ _ _ _ stores => .ok le_rfl stores stores

theorem update {change change' : Store → Store}
    (changes : ∀ v, w ≤ v → ∀ store store', L.Stores v store store' →
      L.Stores v (change store) (change' store')) :
    L.Agree w (fun _ => Eq) (modify change : Eval Unit) (modify change') :=
  fun v le store store' stores => .ok le_rfl (changes v le store store' stores) rfl

theorem newList {items items' : Array Value} (like : L.Listed w items.toList items'.toList) :
    L.Agree w L.Values (Eval.newList items) (Eval.newList items') := by
  intro v le store store' stores
  have same : (Value.list store.lists.size) = .list store'.lists.size := by rw [stores.lists]
  have made : L.Values v (.list store.lists.size) (.list store'.lists.size) := same ▸ .list _
  exact .ok le_rfl (stores.newList (like.mono le)) made

theorem newNodeList {nodes nodes' : List Node} (like : L.AllData nodes nodes') :
    L.Agree w L.Values (Eval.newNodeList nodes) (Eval.newNodeList nodes') := by
  refine newList ?_
  simp only [Likeness.Listed, List.forall₂_map_left_iff, List.forall₂_map_right_iff]
  exact like.imp fun _ _ => .node

theorem items (id : ListId) :
    L.Agree w (fun v items items' => L.Listed v items.toList items'.toList) (Eval.items id)
      (Eval.items id) :=
  get.bind fun _ _ _ _ stores => pure fun _ le => (stores.items id).mono le

theorem modifyList (id : ListId) {change change' : Array Value → Array Value}
    (changes : ∀ v, w ≤ v → ∀ {items items' : Array Value},
      L.Listed v items.toList items'.toList →
        L.Listed v (change items).toList (change' items').toList) :
    L.Agree w (fun _ => Eq) (Eval.modifyList id change) (Eval.modifyList id change') :=
  update fun v le _ _ stores => stores.modifyList id (changes v le)

/-- New functions correspond to each other. -/
theorem newIdentity :
    L.Agree w World.related (modifyGet Store.newIdentity : Eval Identity)
      (modifyGet Store.newIdentity) := by
  intro v le store store' stores
  let n := store.nextIdentity
  let n' := store'.nextIdentity
  have newer : ∀ i i', (World.single n n').related i i' → n ≤ i ∧ n' ≤ i' := by
    rintro _ _ ⟨rfl, rfl⟩
    exact ⟨le_rfl, le_rfl⟩
  let grown := v.union (.single n n') n n' stores.known newer
  have later : v ≤ grown := fun _ _ known => .inl known
  have made : L.Stores grown store.newIdentity.2 store'.newIdentity.2 := by
    have moved : L.Stores v store.newIdentity.2 store'.newIdentity.2 :=
      ⟨stores.lists, stores.items, stores.frames, stores.bound, fun i i' known =>
        (stores.known i i' known).imp Nat.lt_succ_of_lt Nat.lt_succ_of_lt⟩
    refine moved.mono later ?_
    rintro i i' (known | ⟨rfl, rfl⟩)
    · exact moved.known i i' known
    · exact ⟨Nat.lt_succ_self _, Nat.lt_succ_self _⟩
  exact .ok later made (.inr ⟨rfl, rfl⟩)

theorem newClosure {closure closure' : Closure} (like : L.Closures closure closure') :
    L.Agree w L.Values (Eval.newClosure closure) (Eval.newClosure closure') :=
  newIdentity.bind fun _ _ _ _ known => value (.closure known like)

theorem newNative {native native' : Native} (like : L.Natives native native') :
    L.Agree w L.Values (Eval.newNative native) (Eval.newNative native') :=
  newIdentity.bind fun _ _ _ _ known => value (.native known like)

theorem newFrame :
    L.Agree w (fun _ => Eq) (modifyGet Store.newFrame : Eval FrameId) (modifyGet Store.newFrame) :=
  fun _ _ _ _ stores => .ok le_rfl stores.newFrame stores.frames

theorem newScope : L.Agree w (fun _ => Eq) Eval.newScope Eval.newScope :=
  newFrame.bind fun _ _ _ _ frames => pure fun _ _ => by rw [frames]

theorem newFrameIn (scope : Scope) :
    L.Agree w (fun _ => Eq) (Eval.newFrameIn scope) (Eval.newFrameIn scope) :=
  newFrame.bind fun _ _ _ _ frames => pure fun _ _ => by rw [frames]

theorem define (scope : Scope) (name : String) {value value' : Value}
    (like : L.Values w value value') :
    L.Agree w (fun _ => Eq) (Eval.define scope name value) (Eval.define scope name value') :=
  update fun _ le _ _ stores => stores.bind scope.frame name (like.mono le)

theorem assign (scope : Scope) (name : String) {value value' : Value}
    (like : L.Values w value value') :
    L.Agree w (fun _ => Eq) (Eval.assign scope name value) (Eval.assign scope name value') :=
  update fun _ le _ _ stores => stores.assign scope name (like.mono le)

theorem lookup (scope : Scope) (name : String) {span span' : Option Span}
    (places : L.place span span') :
    L.Agree w L.Values (Eval.lookup scope name span) (Eval.lookup scope name span') := by
  refine get.bind fun v le store store' stores => ?_
  have found := stores.lookup scope name
  generalize store.lookup scope name = value, store'.lookup scope name = value' at found
  cases found with
  | none => exact fail _ places
  | some like => exact value like

theorem textOf {value value' : Value} (like : L.Values w value value') :
    L.Agree w (fun _ => Eq) (Eval.textOf value) (Eval.textOf value') := by
  refine get.bind fun v le store store' stores => ?_
  rw [stores.text?_eq (like.mono le)]
  cases value'.text? store' with
  | none => exact forever _ nofun
  | some text => exact same text

end Agree

/-! ## The level below -/

variable (L)

/-- What can be asked of two levels is alike. -/
structure Levels (level level' : Level) : Prop where
  eval : ∀ w {node node'}, L.Code node node' → ∀ scope,
    L.Agree w L.Values (level.eval node scope) (level'.eval node' scope)
  invoke : ∀ w {closure closure'}, L.Closures closure closure' →
    ∀ {arguments arguments'}, L.Listed w arguments arguments' →
      L.Agree w L.Values (level.invoke closure arguments) (level'.invoke closure' arguments')
  run : ∀ w {definition definition'}, L.Definitions definition definition' →
    ∀ {nodes nodes'}, L.AllData nodes nodes' →
      L.Agree w (fun _ => L.Expansions) (level.run definition nodes) (level'.run definition' nodes')

/-- Two machines that differ in their registries and limits only. -/
structure Machines (machine machine' : Machine) : Prop where
  registry : L.Registries machine.registry machine'.registry
  services : machine.services = L.services
  services' : machine'.services = L.services'
  patience : machine.patience = machine'.patience
  deadlinePassed : machine.deadlinePassed = machine'.deadlinePassed

variable {L}

theorem Values.monotone : Monotone L.Values :=
  fun _ _ le _ _ like => like.mono le

namespace Levels

variable {level level' : Level} (below : L.Levels level level')

include below

theorem evalAll {body body' : List Node} (code : L.AllCode body body') (scope : Scope)
    {value value' : Value} (like : L.Values w value value') :
    L.Agree w L.Values (level.evalAll body scope value) (level'.evalAll body' scope value') :=
  .foldlM (I := fun _ => L.Code) monotone_const Values.monotone
    (fun v _ _ _ _ _ _ statement => below.eval v statement scope) code like

theorem evalEach {nodes nodes' : List Node} (code : L.AllCode nodes nodes') (scope : Scope) :
    L.Agree w L.Listed (level.evalEach nodes scope) (level'.evalEach nodes' scope) :=
  .mapM (I := fun _ => L.Code) monotone_const Values.monotone
    (fun v _ _ _ node => below.eval v node scope) code

end Levels

end TreeMacros.Likeness
