import TreeMacros.Evaluation.Running
import TreeMacros.Proofs.Store.Frames

/-! # Parameters of closures

A call of a closure opens a frame and assigns the arguments to the parameters, one after the other.
Which frame an assignment changes does not depend on those before it: it is the nearest frame
around the closure that binds the name, or else the frame of the call. So the last place of a name
among the parameters decides, and frames and names that no parameter leads to stay as they are.
-/

namespace TreeMacros

namespace Store

variable (store : Store)

/-! ## One assignment after another -/

/-- There is a frame to assign to if there is an innermost one. -/
theorem assigned_lt {scope : Scope} (there : scope.frame < store.frames.size) (name : String) :
    store.assigned scope name < store.frames.size := by
  unfold assigned
  cases nearest : store.nearest? scope name with
  | none => exact there
  | some id =>
      obtain ⟨-, value, bound⟩ := store.nearest?_eq_some nearest
      by_contra absent
      have outside : store.frames.size ≤ id := Nat.le_of_not_lt absent
      simp [frame, outside] at bound

theorem size_assign (scope : Scope) (name : String) (value : Value) :
    (store.assign scope name value).frames.size = store.frames.size := by
  rw [assign_eq, size_bind]

/-- The frame that a name leads to stays the same when some name is assigned to. -/
theorem assigned_assign {scope : Scope} (there : scope.frame < store.frames.size) (name : String)
    (value : Value) (key : String) :
    (store.assign scope name value).assigned scope key = store.assigned scope key := by
  have known := store.assigned_lt there name
  by_cases same : key = name
  · subst same
    rw [assigned, store.nearest?_assign known]
    rfl
  · have binds : ∀ id, (store.assign scope name value).bindsIn id key = store.bindsIn id key := by
      intro id
      rw [bindsIn, assign_eq, lookup_frame_bind store known, if_neg fun both => same both.2, bindsIn]
    simp only [assigned, nearest?, binds]

/-- A store after arguments were assigned to names, where a missing argument is null. -/
def withArguments (store : Store) (scope : Scope) : List String → List Value → Store
  | [], _ => store
  | name :: names, arguments =>
    (store.assign scope name (arguments.headD .null)).withArguments scope names arguments.tail

end Store

theorem assignParameters_eq (scope : Scope) (names : List String) (arguments : List Value)
    (store : Store) :
    assignParameters scope names arguments store =
      .ok () (store.withArguments scope names arguments) := by
  induction names generalizing arguments store with
  | nil => rfl
  | cons name rest ih => exact ih _ _

namespace Store

variable {store : Store} {scope : Scope} (there : scope.frame < store.frames.size)

theorem withArguments_frames (names : List String) (arguments : List Value) :
    store.withArguments scope names arguments =
      { store with frames := (store.withArguments scope names arguments).frames } := by
  induction names generalizing arguments store with
  | nil => rfl
  | cons name rest ih =>
      rw [withArguments, ih, assign_eq]
      rfl

theorem size_withArguments (names : List String) (arguments : List Value) :
    (store.withArguments scope names arguments).frames.size = store.frames.size := by
  induction names generalizing arguments store with
  | nil => rfl
  | cons name rest ih => rw [withArguments, ih, size_assign]

include there

theorem assigned_withArguments (names : List String) (arguments : List Value) (key : String) :
    (store.withArguments scope names arguments).assigned scope key = store.assigned scope key := by
  induction names generalizing arguments store with
  | nil => rfl
  | cons name rest ih =>
      have still : scope.frame < (store.assign scope name (arguments.headD .null)).frames.size :=
        (store.size_assign scope name _).symm ▸ there
      rw [withArguments, ih still, store.assigned_assign there]

/-- A name keeps its values where no parameter leads. -/
theorem frame_withArguments_other (names : List String) (arguments : List Value) {id : FrameId}
    {key : String} (other : key ∈ names → id ≠ store.assigned scope key) :
    ((store.withArguments scope names arguments).frame id).lookup key =
      (store.frame id).lookup key := by
  induction names generalizing arguments store with
  | nil => rfl
  | cons name rest ih =>
      have still : scope.frame < (store.assign scope name (arguments.headD .null)).frames.size :=
        (store.size_assign scope name _).symm ▸ there
      rw [withArguments, ih still, assign_eq, store.lookup_frame_bind (store.assigned_lt there name)]
      · refine if_neg ?_
        rintro ⟨here, rfl⟩
        exact other List.mem_cons_self here
      · intro mem
        rw [store.assigned_assign there]
        exact other (List.mem_cons_of_mem _ mem)

/-- The last place of a name among the parameters decides what it is bound to. -/
theorem frame_withArguments (names : List String) (arguments : List Value) {place : Nat}
    {key : String} (found : names[place]? = some key) (last : key ∉ names.drop (place + 1)) :
    ((store.withArguments scope names arguments).frame (store.assigned scope key)).lookup key =
      some (argument arguments place) := by
  induction names generalizing arguments store place with
  | nil => cases found
  | cons name rest ih =>
      have still : scope.frame < (store.assign scope name (arguments.headD .null)).frames.size :=
        (store.size_assign scope name _).symm ▸ there
      cases place with
      | zero =>
          obtain rfl := Option.some.inj found
          have fresh : name ∉ rest := last
          rw [withArguments, frame_withArguments_other still _ _ fun mem => absurd mem fresh,
            assign_eq, store.lookup_frame_bind (store.assigned_lt there name), if_pos ⟨rfl, rfl⟩]
          cases arguments <;> rfl
      | succ place =>
          have later := ih still arguments.tail found last
          rw [store.assigned_assign there] at later
          rw [withArguments, later]
          cases arguments <;> rfl

end Store

/-! ## The frame of a call -/

namespace Store

variable (store : Store) (scope : Scope)

/-- A new frame hides nothing. -/
theorem nearest?_newFrame (name : String) :
    store.newFrame.2.nearest? (scope.within store.frames.size) name =
      store.nearest? scope name := by
  have unbound : store.bindsIn store.frames.size name = false := by
    rw [bindsIn, frame_size]
    rfl
  simp only [nearest?, bindsIn, frame_newFrame] at unbound ⊢
  rw [Scope.within, Scope.frames, List.find?_cons, unbound]

/-- What stands in the frame that a name leads to is what the name means. -/
theorem lookup_of_assigned {store : Store} {scope : Scope} {name : String} {value : Value}
    (bound : (store.frame (store.assigned scope name)).lookup name = some value) :
    store.lookup scope name = some value := by
  rw [lookup_eq]
  unfold assigned at bound
  cases nearest : store.nearest? scope name with
  | some id => rwa [nearest] at bound
  | none =>
      rw [nearest, Option.getD_none] at bound
      have unbound := List.find?_eq_none.mp nearest scope.frame List.mem_cons_self
      simp [bindsIn, bound] at unbound

/-- A name means the same where every frame binds it to the same. -/
theorem lookup_congr {store after : Store} {name : String}
    (same : ∀ id, (after.frame id).lookup name = (store.frame id).lookup name) :
    after.lookup scope name = store.lookup scope name := by
  unfold lookup
  induction scope.frames with
  | nil => rfl
  | cons id outer ih => rw [lookupIn, lookupIn, ih, same]

theorem lookup_within_new (name : String) :
    store.lookup (scope.within store.frames.size) name = store.lookup scope name := by
  rw [lookup, Scope.within, Scope.frames, lookupIn, frame_size]
  rfl

end Store

/-- The body of a closure in the scope of a call. -/
def Level.evalBody (level : Level) (closure : Closure) (scope : Scope) : Eval Value :=
  match closure.kind with
  | .function => Eval.catchReturn (level.evalAll closure.body scope)
  | .lambda => level.evalAll closure.body scope

theorem Level.callClosure_eq (level : Level) (closure : Closure) (arguments : List Value)
    (store : Store) :
    let scope := closure.scope.within store.frames.size
    level.callClosure closure arguments store =
      level.evalBody closure scope
        (store.newFrame.2.withArguments scope closure.params arguments) := by
  intro scope
  have opened : Eval.newFrameIn closure.scope store = .ok scope store.newFrame.2 := rfl
  simp only [callClosure, bind, EStateM.bind, opened, assignParameters_eq]
  rfl

theorem assignParameters_take (scope : Scope) (names : List String) (arguments : List Value) :
    assignParameters scope names arguments =
      assignParameters scope names (arguments.take names.length) := by
  induction names generalizing arguments with
  | nil => rfl
  | cons name rest ih =>
      cases arguments with
      | nil => rfl
      | cons first others =>
          rw [List.length_cons, List.take_succ_cons, assignParameters, assignParameters]
          simp only [List.tail_cons, List.headD_cons, ih others]

/-- When the body of a closure begins, each parameter reads as the argument at its last place, or as
    null where there is none, and every other name as it did around the closure. A parameter is
    changed in the nearest frame around the closure that binds it, or else bound in the frame of
    the call, and nothing else is changed. Arguments without a parameter do nothing. -/
theorem parameters_assigned (level : Level) (closure : Closure) (arguments : List Value)
    (store : Store) :
    let scope := closure.scope.within store.frames.size
    let owner (name : String) := (store.nearest? closure.scope name).getD store.frames.size
    (∃ started : Store,
      level.callClosure closure arguments store = level.evalBody closure scope started ∧
      started = { store with frames := started.frames } ∧
      started.frames.size = store.frames.size + 1 ∧
      (∀ place name, closure.params[place]? = some name →
        name ∉ closure.params.drop (place + 1) →
        started.lookup scope name = some (argument arguments place) ∧
        (started.frame (owner name)).lookup name = some (argument arguments place)) ∧
      (∀ name, name ∉ closure.params →
        started.lookup scope name = store.lookup closure.scope name ∧
        started.lookup closure.scope name = store.lookup closure.scope name) ∧
      (∀ id name, (name ∈ closure.params → id ≠ owner name) →
        (started.frame id).lookup name = (store.frame id).lookup name) ∧
      ∀ id name, store.nearest? closure.scope name = none → id < store.frames.size →
        (started.frame id).lookup name = (store.frame id).lookup name) ∧
    level.callClosure closure arguments =
      level.callClosure closure (arguments.take closure.params.length) := by
  intro scope owner
  let started := store.newFrame.2.withArguments scope closure.params arguments
  have there : scope.frame < store.newFrame.2.frames.size := by
    simp [scope, Scope.within, Store.newFrame]
  have owned : ∀ name, store.newFrame.2.assigned scope name = owner name := by
    intro name
    rw [Store.assigned, store.nearest?_newFrame]
    rfl
  have kept : ∀ id name, (name ∈ closure.params → id ≠ owner name) →
      (started.frame id).lookup name = (store.frame id).lookup name := by
    intro id name other
    rw [Store.frame_withArguments_other there _ _ fun mem => owned name ▸ other mem,
      store.frame_newFrame]
  refine ⟨⟨started, level.callClosure_eq closure arguments store, ?_, ?_, ?_, ?_, kept, ?_⟩, ?_⟩
  · exact Store.withArguments_frames closure.params arguments
  · rw [Store.size_withArguments]
    simp [Store.newFrame]
  · intro place name found last
    have bound := Store.frame_withArguments there closure.params arguments found last
    have reads := bound
    rw [← Store.assigned_withArguments there closure.params arguments name] at reads
    rw [owned] at bound
    exact ⟨Store.lookup_of_assigned reads, bound⟩
  · intro name other
    have same : ∀ id, (started.frame id).lookup name = (store.frame id).lookup name :=
      fun id => kept id name fun mem => absurd mem other
    rw [Store.lookup_congr scope same, Store.lookup_congr closure.scope same,
      store.lookup_within_new]
    exact ⟨rfl, rfl⟩
  · intro id name unbound old
    refine kept id name fun _ => ?_
    simp only [owner, unbound, Option.getD_none]
    exact Nat.ne_of_lt old
  · unfold Level.callClosure
    simp only [assignParameters_take _ closure.params arguments]

/-- A parameter that stands twice and is bound further out, one that is not, and an argument too
    many. -/
theorem parameters_assigned_twice :
    let store : Store := ({} : Store).newFrame.2.define ⟨0, []⟩ "x" .null
    let closure : Closure := ⟨none, ["x", "y", "x"], [], ⟨0, []⟩, .lambda⟩
    let arguments : List Value := [.text "a", .text "b", .text "c", .text "d"]
    let level := ({} : Machine).level 1
    ∃ started : Store,
      level.callClosure closure arguments store = level.evalBody closure ⟨1, [0]⟩ started ∧
      started.lookup ⟨1, [0]⟩ "x" = some (.text "c") ∧
      (started.frame 0).lookup "x" = some (.text "c") ∧
      started.lookup ⟨1, [0]⟩ "y" = some (.text "b") ∧
      (started.frame 0).lookup "y" = none := by
  intro store closure arguments level
  obtain ⟨⟨started, begins, -, -, given, -, -, unbound⟩, -⟩ :=
    parameters_assigned level closure arguments store
  obtain ⟨readsX, boundX⟩ := given 2 "x" rfl (by decide)
  obtain ⟨readsY, -⟩ := given 1 "y" rfl (by decide)
  exact ⟨started, begins, readsX, boundX, readsY, unbound 0 "y" rfl (by decide)⟩

end TreeMacros
