import TreeMacros.Proofs.Evaluation.Likeness.Level

/-! # Names in a macro body

A body begins in a scope of two frames. The outer one holds the builtins. The inner one gets the
parameters and then the registered macros, where what is bound later hides what was bound before. So
a name means the registered macro, or else the last parameter, or else the builtin of this name.
-/

namespace TreeMacros

/-! ## Builtins -/

namespace Native

/-- The functions that every macro body starts with. -/
def base : List Native :=
  Builtin.all.map builtin ++ NodeMaker.all.map maker

theorem builtin_mem_base (b : Builtin) : builtin b ∈ base := by
  refine List.mem_append_left _ (List.mem_map_of_mem ?_)
  cases b <;> decide

theorem maker_mem_base (m : NodeMaker) : maker m ∈ base := by
  refine List.mem_append_right _ (List.mem_map_of_mem ?_)
  obtain kind | _ | kind := m
  · cases kind <;> decide
  · decide
  · cases kind <;> decide

/-- No two of them have the same name. -/
theorem nodup_names_base : (base.map name).Nodup := by
  decide

end Native

/-- The store after a frame was made that holds the builtins. -/
def Store.withBuiltins (store : Store) : Store :=
  store.newFrame.2.withNatives store.frames.size Native.base

theorem Eval.defineNatives_eq {ι : Type} (scope : Scope) (native : ι → Native) (items : List ι)
    (store : Store) :
    (items.forM fun item => do
      Eval.define scope (native item).name (← Eval.newNative (native item))) store =
      .ok () (store.withNatives scope.frame (items.map native)) := by
  induction items generalizing store with
  | nil => rfl
  | cons item rest ih => exact ih _

theorem Eval.newBaseScope_eq (store : Store) :
    Eval.newBaseScope store = .ok ⟨store.frames.size, []⟩ store.withBuiltins := by
  have opened : Eval.newScope store = .ok ⟨store.frames.size, []⟩ store.newFrame.2 := rfl
  have builtins := Eval.defineNatives_eq ⟨store.frames.size, []⟩ Native.builtin Builtin.all
  have makers := Eval.defineNatives_eq ⟨store.frames.size, []⟩ Native.maker NodeMaker.all
  simp only [Native.name] at builtins makers
  simp only [newBaseScope, Bind.bind, EStateM.bind] at builtins makers ⊢
  rw [opened]
  simp only [builtins, makers]
  rw [Store.withBuiltins, Native.base, Store.withNatives_append]
  rfl

/-! ## Parameters -/

namespace Store

/-- The store after the parameters of a macro were bound one by one. -/
def withParameters (store : Store) (frame : FrameId) : List String → List Node → Store
  | [], _ => store
  | name :: names, arguments =>
    (store.bind frame name (.node (arguments.headD (.ident "null")))).withParameters frame names
      arguments.tail

/-- The store after the arguments of a macro were bound. -/
def given (store : Store) (frame : FrameId) (params : List String) (arguments : List Node) :
    Store :=
  match params with
  | [only] =>
    let made := store.newList (arguments.map Value.node).toArray
    made.2.bind frame only (.list made.1)
  | params => store.withParameters frame params arguments

variable (store : Store) (frame : FrameId) (params : List String) (arguments : List Node)

theorem size_withParameters :
    (store.withParameters frame params arguments).frames.size = store.frames.size := by
  fun_induction store.withParameters frame params arguments with
  | case1 => rfl
  | case2 store name names arguments ih => rw [ih, size_bind]

/-- Arguments without a parameter are not bound. -/
theorem withParameters_take :
    store.withParameters frame params (arguments.take params.length) =
      store.withParameters frame params arguments := by
  induction params generalizing store arguments with
  | nil => rfl
  | cons name names ih =>
      cases arguments with
      | nil => rfl
      | cons first rest => exact ih _ rest

variable {params} in
theorem given_of_ne (several : params.length ≠ 1) :
    store.given frame params arguments = store.withParameters frame params arguments := by
  match params with
  | [only] => exact absurd rfl several
  | [] | _ :: _ :: _ => rfl

theorem size_given : (store.given frame params arguments).frames.size = store.frames.size := by
  by_cases several : params.length ≠ 1
  · rw [given_of_ne _ _ _ several, size_withParameters]
  · obtain ⟨only, rfl⟩ := List.length_eq_one_iff.mp (not_not.mp several)
    exact size_bind _ _ _ _

variable {frame params}

theorem lookup_withParameters_fresh (there : frame < store.frames.size) {id : FrameId}
    {key : String} (fresh : id = frame → key ∉ params) :
    ((store.withParameters frame params arguments).frame id).lookup key =
      (store.frame id).lookup key := by
  fun_induction store.withParameters frame params arguments with
  | case1 => rfl
  | case2 store name names arguments ih =>
      simp only [List.mem_cons, not_or] at fresh
      rw [ih (by rwa [size_bind]) fun here => (fresh here).2, lookup_frame_bind _ there, if_neg]
      exact fun same => (fresh same.1).1 same.2

/-- The last parameter of a name has the argument at its place. -/
theorem lookup_withParameters (there : frame < store.frames.size) {before after : List String}
    {name : String} (last : name ∉ after) :
    ((store.withParameters frame (before ++ name :: after) arguments).frame frame).lookup name =
      some (.node (arguments.getD before.length (.ident "null"))) := by
  induction before generalizing store arguments with
  | nil =>
      have there' : frame < (store.bind frame name
          (.node (arguments.headD (.ident "null")))).frames.size := by rwa [size_bind]
      rw [List.nil_append, withParameters, lookup_withParameters_fresh _ _ there' fun _ => last,
        lookup_frame_bind _ there, if_pos ⟨rfl, rfl⟩]
      cases arguments <;> rfl
  | cons first before ih =>
      rw [List.cons_append, withParameters, ih _ _ (by rwa [size_bind])]
      cases arguments <;> rfl

theorem lookup_given_fresh (there : frame < store.frames.size) {id : FrameId} {key : String}
    (fresh : id = frame → key ∉ params) :
    ((store.given frame params arguments).frame id).lookup key = (store.frame id).lookup key := by
  by_cases several : params.length ≠ 1
  · rw [given_of_ne _ _ _ several, lookup_withParameters_fresh _ _ there fresh]
  · obtain ⟨only, rfl⟩ := List.length_eq_one_iff.mp (not_not.mp several)
    have made : frame < (store.newList (arguments.map Value.node).toArray).2.frames.size := there
    rw [given, lookup_frame_bind _ made, if_neg]
    · rfl
    · rintro ⟨here, rfl⟩
      exact fresh here List.mem_cons_self

end Store

theorem defineParameters_eq (scope : Scope) (params : List String) (arguments : List Node)
    (store : Store) :
    defineParameters scope params arguments store =
      .ok () (store.withParameters scope.frame params arguments) := by
  induction params generalizing store arguments with
  | nil => rfl
  | cons name names ih => exact ih _ _

theorem bindArguments_eq (scope : Scope) (params : List String) (arguments : List Node)
    (store : Store) :
    bindArguments scope params arguments store =
      .ok () (store.given scope.frame params arguments) := by
  match params with
  | [only] => rfl
  | [] | _ :: _ :: _ => exact defineParameters_eq scope _ arguments store

/-! ## The store in which a body begins -/

namespace Store

/-- The scope of a macro body: a frame inside that of the builtins. -/
def bodyScope (store : Store) : Scope :=
  ⟨store.frames.size + 1, [store.frames.size]⟩

/-- The store in which a macro body begins. -/
def entered (store : Store) (registry : Registry) (params : List String)
    (arguments : List Node) : Store :=
  let inner := store.frames.size + 1
  (store.withBuiltins.newFrame.2.given inner params arguments).withEntries inner registry.entries

variable (store : Store) {registry : Registry} (params : List String) (arguments : List Node)

theorem size_withBuiltins : store.withBuiltins.frames.size = store.frames.size + 1 := by
  rw [withBuiltins, size_withNatives, newFrame, Array.size_push]

theorem lists_withBuiltins : store.withBuiltins.lists = store.lists := by
  rw [withBuiltins, lists_withNatives]
  rfl

/-- The functions that bodies start with are bound to their names. -/
theorem lookup_withBuiltins {native : Native} (mem : native ∈ Native.base) :
    ∃ identity, (store.withBuiltins.frame store.frames.size).lookup native.name =
      some (.native identity native) := by
  obtain ⟨place, found⟩ := List.mem_iff_getElem?.mp mem
  have there : store.frames.size < store.newFrame.2.frames.size := by
    rw [newFrame, Array.size_push]
    exact Nat.lt_succ_self _
  exact ⟨_, lookup_withNatives _ _ _ there Native.nodup_names_base found⟩

theorem inner_lt_size : store.frames.size + 1 < store.withBuiltins.newFrame.2.frames.size := by
  rw [newFrame, Array.size_push, size_withBuiltins]
  exact Nat.lt_succ_self _

theorem lookup_bodyScope (later : Store) (name : String) :
    later.lookup store.bodyScope name =
      ((later.frame (store.frames.size + 1)).lookup name).or
        ((later.frame store.frames.size).lookup name) := by
  simp [lookup, bodyScope, Scope.frames, lookupIn]

variable {params} in
/-- Several parameters, or none, leave the arguments behind them out. -/
theorem entered_take (several : params.length ≠ 1) :
    store.entered registry params (arguments.take params.length) =
      store.entered registry params arguments := by
  rw [entered, entered, given_of_ne _ _ _ several, given_of_ne _ _ _ several, withParameters_take]

/-- A registered name is bound to its macro, whatever the parameters are. -/
theorem lookup_entered_registered {name : String} {entry : Entry}
    (found : registry.get? name = some entry) :
    ∃ identity, (store.entered registry params arguments).lookup store.bodyScope name =
      some (.native identity (.registered name entry)) := by
  obtain ⟨place, holds⟩ := registry.get?_eq_some found
  rw [lookup_bodyScope, entered, lookup_withEntries _ _ _ _ registry.distinct holds]
  · exact ⟨_, rfl⟩
  · rw [size_given]
    exact store.inner_lt_size

section Unregistered

variable {name : String} (missing : registry.get? name = none)

include missing

/-- The only parameter is bound to a list of all arguments, which is made behind all lists. -/
theorem lookup_entered_only :
    (store.entered registry [name] arguments).lookup store.bodyScope name =
        some (.list store.lists.size) ∧
      (store.entered registry [name] arguments).items store.lists.size =
        (arguments.map Value.node).toArray := by
  have lists : store.withBuiltins.newFrame.2.lists = store.lists := store.lists_withBuiltins
  constructor
  · rw [lookup_bodyScope, entered, lookup_withEntries_fresh _ _ _ fun _ _ =>
      registry.get?_eq_none missing, given, lookup_frame_bind, if_pos ⟨rfl, rfl⟩]
    · simp only [newList, lists, Option.some_or]
    · exact store.inner_lt_size
  · rw [items, entered, lists_withEntries]
    simp only [given, newList, bind, lists]
    simp

/-- The last parameter of a name is bound to the argument at its place. -/
theorem lookup_entered_parameter {before after : List String} (last : name ∉ after)
    (several : (before ++ name :: after).length ≠ 1) :
    (store.entered registry (before ++ name :: after) arguments).lookup store.bodyScope name =
      some (.node (arguments.getD before.length (.ident "null"))) := by
  rw [lookup_bodyScope, entered, lookup_withEntries_fresh _ _ _ fun _ _ =>
    registry.get?_eq_none missing, given_of_ne _ _ _ several,
    lookup_withParameters _ _ store.inner_lt_size last, Option.some_or]

variable {params} (other : name ∉ params)

include other

/-- A name that is neither registered nor a parameter is looked up among the builtins. -/
theorem lookup_entered_other :
    (store.entered registry params arguments).lookup store.bodyScope name =
      (store.withBuiltins.frame store.frames.size).lookup name := by
  have unregistered := registry.get?_eq_none missing
  have inner : store.withBuiltins.frame (store.frames.size + 1) = [] :=
    store.size_withBuiltins ▸ frame_size _
  have apart : store.frames.size ≠ store.frames.size + 1 := by omega
  rw [lookup_bodyScope, entered,
    lookup_withEntries_fresh _ _ _ fun _ _ => unregistered,
    lookup_withEntries_fresh _ _ _ fun here => absurd here apart,
    lookup_given_fresh _ _ store.inner_lt_size fun _ => other,
    lookup_given_fresh _ _ store.inner_lt_size fun here => absurd here apart,
    frame_newFrame, frame_newFrame, inner, List.lookup_nil, Option.none_or]

theorem lookup_entered_native {native : Native} (mem : native ∈ Native.base)
    (named : native.name = name) :
    ∃ identity, (store.entered registry params arguments).lookup store.bodyScope name =
      some (.native identity native) := by
  obtain ⟨identity, bound⟩ := store.lookup_withBuiltins mem
  rw [named] at bound
  exact ⟨identity, (store.lookup_entered_other arguments missing other).trans bound⟩

theorem lookup_entered_unknown (unknown : ∀ native ∈ Native.base, native.name ≠ name) :
    (store.entered registry params arguments).lookup store.bodyScope name = none := by
  have absent : name ∉ Native.base.map Native.name := by
    intro mem
    obtain ⟨native, inBase, named⟩ := List.mem_map.mp mem
    exact unknown native inBase named
  rw [store.lookup_entered_other arguments missing other, withBuiltins,
    lookup_withNatives_fresh _ _ _ fun _ _ => absent, frame_newFrame, frame_size]
  rfl

end Unregistered

end Store

/-- Running a macro is evaluating its body where the names are bound. -/
theorem Level.runDefinition_eq (level : Level) (registry : Registry) (definition : Definition)
    (arguments : List Node) (store : Store) :
    level.runDefinition registry definition arguments store =
      (do let value ← Eval.catchReturn (level.evalAll definition.body store.bodyScope)
          value.toExpansion : Eval Expansion)
        (store.entered registry definition.params arguments) := by
  have opened := Eval.newBaseScope_eq store
  have inner : Eval.newFrameIn ⟨store.frames.size, []⟩ store.withBuiltins =
      .ok store.bodyScope store.withBuiltins.newFrame.2 := by
    rw [Store.bodyScope, ← store.size_withBuiltins]
    rfl
  have given := bindArguments_eq store.bodyScope definition.params arguments
    store.withBuiltins.newFrame.2
  simp only [runDefinition, Bind.bind, EStateM.bind, opened, inner, given, bindRegistry_eq]
  rfl

namespace Eval

variable {scope : Scope} {name : String} {store : Store} (span : Option Span)

theorem lookup_eq_ok {value : Value} (bound : store.lookup scope name = some value) :
    Eval.lookup scope name span store = .ok value store := by
  have read : (get : Eval Store) store = .ok store store := rfl
  simp only [lookup, Bind.bind, EStateM.bind, read, bound]
  rfl

theorem lookup_eq_error (unbound : store.lookup scope name = none) :
    Eval.lookup scope name span store =
      .error (.failed (.fault { cause := .unknownSymbol name, span })) store := by
  have read : (get : Eval Store) store = .ok store store := rfl
  simp only [lookup, Bind.bind, EStateM.bind, read, unbound]
  rfl

theorem bind_error {α β : Type} {action : Eval α} {next : α → Eval β} {unwind : Unwind}
    {after : Store} (failed : action store = .error unwind after) :
    (action >>= next) store = .error unwind after := by
  simp only [Bind.bind, EStateM.bind, failed]

/-- A fault is not caught. -/
theorem catchReturn_error {action : Eval Value} {failure : Failure} {after : Store}
    (failed : action store = .error (.failed failure) after) :
    catchReturn action store = .error (.failed failure) after := by
  simp only [catchReturn, tryCatch, tryCatchThe, MonadExceptOf.tryCatch, EStateM.tryCatch, failed]
  rfl

end Eval

namespace Machine

variable (machine : Machine) (inTime : machine.deadlinePassed = false) (depth : Nat)

include inTime

theorem run_inTime (definition : Definition) (arguments : List Node) :
    (machine.level (depth + 1)).run definition arguments =
      (machine.level depth).runDefinition machine.registry definition arguments := by
  simp [level, Machine.inTime, inTime]

theorem eval_inTime (node : Node) (scope : Scope) :
    (machine.level (depth + 1)).eval node scope =
      machine.evalNode (machine.level depth) node scope := by
  simp [level, Machine.inTime, inTime]

/-- A name that is not a constant is looked up. -/
theorem eval_identifier {name : String} (named : name ∉ ["true", "false", "null"])
    (loc : Option Span) (scope : Scope) :
    (machine.level (depth + 1)).eval (.leaf .identifier name loc) scope =
      Eval.lookup scope name loc := by
  simp only [List.mem_cons, not_or] at named
  obtain ⟨noTrue, noFalse, noNull, -⟩ := named
  rw [eval_inTime machine inTime, evalNode]
  · exact noTrue
  · exact noFalse
  · exact noNull

end Machine

/-- A name that a macro body begins with means the registered macro of this name, whatever the
    parameters are called. Else an only parameter means a new list of all arguments, and one of
    several the argument at its last place, or `null`. Else it means the builtin of this name, or it
    is a fault at its place. Arguments without a parameter change nothing, but for an only one. -/
theorem names_resolve (machine : Machine) (inTime : machine.deadlinePassed = false) (depth : Nat)
    {name : String} (named : name ∉ ["true", "false", "null"]) (loc : Option Span)
    (params : List String) (rest arguments : List Node) (store : Store) :
    let level := machine.level (depth + 1)
    let first := Node.leaf .identifier name loc
    let run := fun body arguments =>
      (machine.level (depth + 2)).run ⟨params, body⟩ arguments store
    ∃ scope entered,
      let outcome := level.eval first scope entered
      run (first :: rest) arguments =
        (do let value ← Eval.catchReturn do
              level.evalAll rest scope (← level.eval first scope)
            value.toExpansion : Eval Expansion) entered ∧
      (∀ entry, machine.registry.get? name = some entry →
        ∃ identity, outcome = .ok (.native identity (.registered name entry)) entered) ∧
      (machine.registry.get? name = none →
        (params = [name] → ∃ id, store.lists.size ≤ id ∧ outcome = .ok (.list id) entered ∧
          entered.items id = (arguments.map Value.node).toArray) ∧
        (params.length ≠ 1 → ∀ before after, params = before ++ name :: after → name ∉ after →
          outcome = .ok (.node (arguments.getD before.length (.ident "null"))) entered) ∧
        (name ∉ params →
          (∀ builtin : Builtin, builtin.name = name →
            ∃ identity, outcome = .ok (.native identity (.builtin builtin)) entered) ∧
          (∀ maker : NodeMaker, maker.name = name →
            ∃ identity, outcome = .ok (.native identity (.maker maker)) entered) ∧
          ((∀ builtin : Builtin, builtin.name ≠ name) → (∀ maker : NodeMaker, maker.name ≠ name) →
            ∃ fault : Fault, fault.kind = .scope ∧ fault.cause = .unknownSymbol name ∧
              fault.span = loc ∧ outcome = .error (.failed (.fault fault)) entered ∧
              run (first :: rest) arguments = .error (.failed (.fault fault)) entered))) ∧
      (params.length ≠ 1 →
        ∀ body, run body (arguments.take params.length) = run body arguments) := by
  intro level first run
  refine ⟨store.bodyScope, store.entered machine.registry params arguments, ?_⟩
  intro outcome
  have looked : level.eval first store.bodyScope = Eval.lookup store.bodyScope name loc :=
    machine.eval_identifier inTime depth named loc store.bodyScope
  have found : ∀ {value}, (store.entered machine.registry params arguments).lookup
      store.bodyScope name = some value →
        outcome = .ok value (store.entered machine.registry params arguments) := by
    intro value bound
    rw [← Eval.lookup_eq_ok loc bound]
    exact congrFun looked _
  have runs : ∀ body arguments, run body arguments =
      (do let value ← Eval.catchReturn (level.evalAll body store.bodyScope)
          value.toExpansion : Eval Expansion)
        (store.entered machine.registry params arguments) := by
    intro body arguments
    rw [← level.runDefinition_eq machine.registry ⟨params, body⟩ arguments store,
      ← machine.run_inTime inTime]
  refine ⟨runs _ _, ?_, fun missing => ⟨?_, ?_, fun other => ⟨?_, ?_, ?_⟩⟩, ?_⟩
  · intro entry registered
    exact (store.lookup_entered_registered params arguments registered).imp fun _ => found
  · rintro rfl
    obtain ⟨bound, items⟩ := store.lookup_entered_only arguments missing
    exact ⟨_, le_rfl, found bound, items⟩
  · rintro several before after rfl last
    exact found (store.lookup_entered_parameter arguments missing last several)
  · intro builtin same
    exact (store.lookup_entered_native arguments missing other
      (Native.builtin_mem_base builtin) same).imp fun _ => found
  · intro maker same
    exact (store.lookup_entered_native arguments missing other
      (Native.maker_mem_base maker) same).imp fun _ => found
  · intro noBuiltin noMaker
    have unknown : ∀ native ∈ Native.base, native.name ≠ name := by
      intro native mem
      obtain mem | mem := List.mem_append.mp mem <;> obtain ⟨_, -, rfl⟩ := List.mem_map.mp mem
      · exact noBuiltin _
      · exact noMaker _
    have unbound := store.lookup_entered_unknown arguments missing other unknown
    have failed : outcome = _ := (congrFun looked _).trans (Eval.lookup_eq_error loc unbound)
    refine ⟨_, rfl, rfl, rfl, failed, ?_⟩
    have begins : level.evalAll (first :: rest) store.bodyScope =
        level.eval first store.bodyScope >>= fun value =>
          level.evalAll rest store.bodyScope value :=
      List.foldlM_cons
    rw [runs, begins]
    exact Eval.bind_error (Eval.catchReturn_error (Eval.bind_error failed))
  · intro several body
    rw [runs, runs, store.entered_take arguments several]

/-- A macro that was registered hides a parameter, and a parameter of which there are two has the
    argument at the later place, which is missing. -/
theorem names_resolve_repeated :
    let silent : Definition := ⟨[], []⟩
    let machine : Machine := { registry := (Registry.register {} "y" (.defined silent)).1 }
    let level := machine.level 1
    let starts : Node → Value → Prop := fun first value =>
      ∃ scope entered,
        (machine.level 2).run ⟨["x", "y", "x"], [first]⟩ [.ident "a", .ident "b"] {} =
          (do let value ← Eval.catchReturn do level.evalAll [] scope (← level.eval first scope)
              value.toExpansion : Eval Expansion) entered ∧
        level.eval first scope entered = .ok value entered
    machine.deadlinePassed = false ∧ "x" ∉ ["true", "false", "null"] ∧
      "y" ∉ ["true", "false", "null"] ∧ starts (.ident "x") (.node (.ident "null")) ∧
      ∃ identity, starts (.ident "y") (.native identity (.registered "y" (.defined silent))) := by
  intro silent machine level starts
  have x : "x" ∉ ["true", "false", "null"] := by decide
  have y : "y" ∉ ["true", "false", "null"] := by decide
  refine ⟨rfl, x, y, ?_, ?_⟩
  · obtain ⟨scope, entered, runs, -, unregistered, -⟩ :=
      names_resolve machine rfl 0 x none ["x", "y", "x"] [] [.ident "a", .ident "b"] {}
    have last := (unregistered (by rfl)).2.1 (by decide) ["x", "y"] [] rfl List.not_mem_nil
    exact ⟨scope, entered, runs, last⟩
  · obtain ⟨scope, entered, runs, registered, -⟩ :=
      names_resolve machine rfl 0 y none ["x", "y", "x"] [] [.ident "a", .ident "b"] {}
    obtain ⟨identity, found⟩ := registered (.defined silent) (by rfl)
    exact ⟨identity, scope, entered, runs, found⟩

end TreeMacros
