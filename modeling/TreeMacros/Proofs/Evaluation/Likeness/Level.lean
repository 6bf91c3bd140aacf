import TreeMacros.Evaluation.Running
import TreeMacros.Proofs.Evaluation.Likeness.Form

/-! # Levels that are alike

Registries that are alike may hold their macros in different orders. A macro finds them under the
same names all the same, only with other identities. Levels of the same depth above levels that are
alike are alike.
-/

namespace TreeMacros

/-! ## Functions in a frame -/

namespace Store

/-- The store after functions were bound in a frame under their names, each with a new identity. -/
def withNatives (store : Store) (frame : FrameId) : List Native → Store
  | [] => store
  | native :: rest =>
    (store.newIdentity.2.bind frame native.name
      (.native store.nextIdentity native)).withNatives frame rest

section

variable (store : Store) (frame : FrameId) (natives : List Native)

theorem lists_withNatives : (store.withNatives frame natives).lists = store.lists := by
  fun_induction store.withNatives frame natives with
  | case1 => rfl
  | case2 store native rest ih => exact ih

theorem size_withNatives :
    (store.withNatives frame natives).frames.size = store.frames.size := by
  fun_induction store.withNatives frame natives with
  | case1 => rfl
  | case2 store native rest ih => rw [ih, size_bind, newIdentity]

theorem nextIdentity_withNatives :
    (store.withNatives frame natives).nextIdentity = store.nextIdentity + natives.length := by
  fun_induction store.withNatives frame natives with
  | case1 => rfl
  | case2 store native rest ih =>
      rw [ih]
      exact Nat.succ_add_eq_add_succ _ _

theorem withNatives_append (more : List Native) :
    store.withNatives frame (natives ++ more) =
      (store.withNatives frame natives).withNatives frame more := by
  fun_induction store.withNatives frame natives with
  | case1 => rfl
  | case2 store native rest ih => exact ih

theorem lookup_withNatives_fresh {id : FrameId} {key : String}
    (fresh : id = frame → id < store.frames.size → key ∉ natives.map Native.name) :
    ((store.withNatives frame natives).frame id).lookup key = (store.frame id).lookup key := by
  fun_induction store.withNatives frame natives with
  | case1 => rfl
  | case2 store native rest ih =>
      simp only [List.map_cons, List.mem_cons, not_or] at fresh
      rw [ih fun here there => (fresh here (by simpa [newIdentity] using there)).2]
      by_cases there : frame < store.newIdentity.2.frames.size
      · rw [lookup_frame_bind _ there, if_neg]
        · rfl
        · rintro ⟨rfl, rfl⟩
          exact (fresh rfl there).1 rfl
      · rw [bind_absent there]
        rfl

theorem lookup_withNatives {k : Nat} {native : Native} (there : frame < store.frames.size)
    (distinct : (natives.map Native.name).Nodup) (found : natives[k]? = some native) :
    ((store.withNatives frame natives).frame frame).lookup native.name =
      some (.native (store.nextIdentity + k) native) := by
  fun_induction store.withNatives frame natives generalizing k with
  | case1 => cases found
  | case2 store first rest ih =>
      obtain ⟨fresh, distinct⟩ := List.nodup_cons.mp distinct
      cases k with
      | zero =>
          obtain rfl := Option.some.inj found
          rw [lookup_withNatives_fresh _ _ _ fun _ _ => fresh,
            lookup_frame_bind store.newIdentity.2 there, if_pos ⟨rfl, rfl⟩]
          rfl
      | succ k =>
          rw [ih (by simpa [newIdentity] using there) distinct found]
          simp only [bind, newIdentity]
          rw [Nat.succ_add_eq_add_succ]

end

end Store

/-! ## Registered macros in a frame -/

/-- The store after macros were bound in a frame, each with a new identity. -/
def Store.withEntries (store : Store) (frame : FrameId) : Fields Entry → Store
  | [] => store
  | (name, entry) :: rest =>
    (store.newIdentity.2.bind frame name
      (.native store.nextIdentity (.registered name entry))).withEntries frame rest

/-- The functions that registered macros are. -/
def Native.ofEntries (entries : Fields Entry) : List Native :=
  entries.map fun field => .registered field.1 field.2

theorem Native.names_ofEntries (entries : Fields Entry) :
    (ofEntries entries).map name = entries.names := by
  simp [ofEntries, Fields.names, name, Function.comp_def]

namespace Store

variable (store : Store) (frame : FrameId) (entries : Fields Entry)

theorem withEntries_eq :
    store.withEntries frame entries = store.withNatives frame (Native.ofEntries entries) := by
  fun_induction store.withEntries frame entries with
  | case1 => rfl
  | case2 store name entry rest ih => exact ih

theorem lists_withEntries : (store.withEntries frame entries).lists = store.lists := by
  rw [withEntries_eq, lists_withNatives]

theorem size_withEntries :
    (store.withEntries frame entries).frames.size = store.frames.size := by
  rw [withEntries_eq, size_withNatives]

theorem nextIdentity_withEntries :
    (store.withEntries frame entries).nextIdentity = store.nextIdentity + entries.length := by
  rw [withEntries_eq, nextIdentity_withNatives, Native.ofEntries, List.length_map]

theorem lookup_withEntries_fresh {id : FrameId} {key : String}
    (fresh : id = frame → id < store.frames.size → key ∉ entries.names) :
    ((store.withEntries frame entries).frame id).lookup key = (store.frame id).lookup key := by
  rw [← Native.names_ofEntries] at fresh
  rw [withEntries_eq, lookup_withNatives_fresh _ _ _ fresh]

theorem lookup_withEntries {k : Nat} {name : String} {entry : Entry}
    (there : frame < store.frames.size) (distinct : entries.names.Nodup)
    (found : entries[k]? = some (name, entry)) :
    ((store.withEntries frame entries).frame frame).lookup name =
      some (.native (store.nextIdentity + k) (.registered name entry)) := by
  rw [← Native.names_ofEntries] at distinct
  have native : (Native.ofEntries entries)[k]? = some (.registered name entry) := by
    rw [Native.ofEntries, List.getElem?_map, found]
    rfl
  rw [withEntries_eq]
  exact lookup_withNatives _ _ _ there distinct native

end Store

theorem bindRegistry_eq (scope : Scope) (registry : Registry) (store : Store) :
    bindRegistry scope registry store =
      .ok () (store.withEntries scope.frame registry.entries) := by
  unfold bindRegistry
  induction registry.entries generalizing store with
  | nil => rfl
  | cons first rest ih => exact ih _

/-! ## Results -/

/-- What a computation gives on its own. -/
def Eval.result {α : Type} (action : Eval α) : Except Failure α :=
  match action {} with
  | .ok a _ => .ok a
  | .error unwind _ => .error unwind.failure

theorem Machine.run_eq (machine : Machine) (definition : Definition) (nodes : List Node) :
    machine.run definition nodes = (machine.top.run definition nodes).result := by
  unfold run execute Eval.result
  cases machine.top.run definition nodes {} <;> rfl

/-! ## Registries that are alike -/

namespace Registry

variable (registry : Registry)

/-- A macro and its place in the registry. -/
def HoldsAt (place : Nat) (name : String) (entry : Entry) : Prop :=
  registry.entries[place]? = some (name, entry)

theorem HoldsAt.eq_iff {registry : Registry} {place place' : Nat} {name name' : String}
    {entry entry' : Entry} (first : registry.HoldsAt place name entry)
    (second : registry.HoldsAt place' name' entry') : place = place' ↔ name = name' := by
  have named : registry.entries.names[place]? = some name := by
    rw [Fields.names, List.getElem?_map, first]
    rfl
  have named' : registry.entries.names[place']? = some name' := by
    rw [Fields.names, List.getElem?_map, second]
    rfl
  constructor
  · rintro rfl
    exact Option.some.inj (named.symm.trans named')
  · rintro rfl
    have within := (List.getElem?_eq_some_iff.mp named).1
    exact (List.getElem?_inj within registry.distinct).mp (named.trans named'.symm)

theorem HoldsAt.lt {registry : Registry} {place : Nat} {name : String} {entry : Entry}
    (holds : registry.HoldsAt place name entry) : place < registry.entries.length :=
  (List.getElem?_eq_some_iff.mp holds).1

theorem get?_eq_some {name : String} {entry : Entry} (found : registry.get? name = some entry) :
    ∃ place, registry.HoldsAt place name entry := by
  obtain ⟨before, after, entries, -⟩ := List.lookup_eq_some_iff.mp found
  exact ⟨before.length, by simp [HoldsAt, entries]⟩

theorem get?_eq_none {name : String} (missing : registry.get? name = none) :
    name ∉ registry.entries.names := by
  intro mem
  obtain ⟨⟨_, entry⟩, there, rfl⟩ := List.mem_map.mp mem
  simpa using List.lookup_eq_none_iff.mp missing _ there

end Registry

/-- Functions correspond that were made for macros of the same name. -/
def World.registered (n n' : Identity) (registry registry' : Registry) : World where
  related i i' := ∃ place place' name entry entry', registry.HoldsAt place name entry ∧
    registry'.HoldsAt place' name entry' ∧ i = n + place ∧ i' = n' + place'
  apart := by
    rintro _ _ _ _ ⟨p, p', name, _, _, first, first', rfl, rfl⟩
      ⟨q, q', other, _, _, second, second', rfl, rfl⟩
    rw [Nat.add_left_cancel_iff, Nat.add_left_cancel_iff, first.eq_iff second,
      first'.eq_iff second']

theorem World.registered_newer (n n' : Identity) (registry registry' : Registry) (i i' : Identity)
    (known : (World.registered n n' registry registry').related i i') : n ≤ i ∧ n' ≤ i' := by
  obtain ⟨_, _, _, _, _, _, _, rfl, rfl⟩ := known
  exact ⟨Nat.le_add_right _ _, Nat.le_add_right _ _⟩

namespace Likeness

variable {L : Likeness} {w v : World}

namespace Stores

variable {store store' : Store} (stores : L.Stores w store store') {registry registry' : Registry}
  (later : w ≤ v) (frame : FrameId)

include stores later

/-- A name that the registries do not bind keeps its value. -/
theorem bound_fresh {id : FrameId} {name : String}
    (fresh : id = frame → id < store.frames.size →
      name ∉ registry.entries.names ∧ name ∉ registry'.entries.names) :
    Option.Rel (L.Values v)
      (((store.withEntries frame registry.entries).frame id).lookup name)
      (((store'.withEntries frame registry'.entries).frame id).lookup name) := by
  rw [Store.lookup_withEntries_fresh _ _ _ fun here there => (fresh here there).1,
    Store.lookup_withEntries_fresh _ _ _ fun here there => (fresh here (stores.frames ▸ there)).2]
  exact optionRel_imp (fun _ _ => Values.mono later) (stores.bound id name)

theorem bound_registered (registries : L.Registries registry registry')
    (made : .registered store.nextIdentity store'.nextIdentity registry registry' ≤ v)
    (id : FrameId) (name : String) :
    Option.Rel (L.Values v)
      (((store.withEntries frame registry.entries).frame id).lookup name)
      (((store'.withEntries frame registry'.entries).frame id).lookup name) := by
  by_cases here : id = frame ∧ id < store.frames.size
  · obtain ⟨rfl, there⟩ := here
    cases found : registry.get? name with
    | none =>
        have found' := optionRel_none (found ▸ registries name)
        exact stores.bound_fresh later id fun _ _ =>
          ⟨registry.get?_eq_none found, registry'.get?_eq_none found'⟩
    | some entry =>
        obtain ⟨entry', found', entries⟩ := optionRel_some (found ▸ registries name)
        obtain ⟨place, holds⟩ := registry.get?_eq_some found
        obtain ⟨place', holds'⟩ := registry'.get?_eq_some found'
        rw [store.lookup_withEntries _ _ there registry.distinct holds,
          store'.lookup_withEntries _ _ (stores.frames ▸ there) registry'.distinct holds']
        have known := made _ _ ⟨place, place', name, entry, entry', holds, holds', rfl, rfl⟩
        exact .some (.native known (.registered name entries))
  · exact stores.bound_fresh later frame fun same there => absurd ⟨same, there⟩ here

end Stores

theorem Agree.bindRegistry (scope : Scope) {registry registry' : Registry}
    (registries : L.Registries registry registry') :
    L.Agree w (fun _ => Eq) (bindRegistry scope registry)
      (TreeMacros.bindRegistry scope registry') := by
  intro v _ store store' stores
  rw [bindRegistry_eq, bindRegistry_eq]
  let made : World := .registered store.nextIdentity store'.nextIdentity registry registry'
  let grown := v.union made store.nextIdentity store'.nextIdentity stores.known
    (World.registered_newer _ _ registry registry')
  have later : v ≤ grown := fun _ _ known => .inl known
  have bound := stores.bound_registered later scope.frame registries fun _ _ known => .inr known
  refine .ok later ⟨?_, fun id => ?_, ?_, bound, ?_⟩ rfl
  · rw [Store.lists_withEntries, Store.lists_withEntries, stores.lists]
  · simpa only [Store.items, Store.lists_withEntries] using (stores.items id).mono later
  · rw [Store.size_withEntries, Store.size_withEntries, stores.frames]
  · rw [Store.nextIdentity_withEntries, Store.nextIdentity_withEntries]
    rintro i i' (known | ⟨_, _, _, _, _, holds, holds', rfl, rfl⟩)
    · exact (stores.known i i' known).imp (Nat.lt_add_right _) (Nat.lt_add_right _)
    · exact ⟨Nat.add_lt_add_left holds.lt _, Nat.add_lt_add_left holds'.lt _⟩

/-! ## Binding arguments -/

theorem Agree.assignParameters (scope : Scope) (names : List String)
    {arguments arguments' : List Value} (like : L.Listed w arguments arguments') :
    L.Agree w (fun _ => Eq) (assignParameters scope names arguments)
      (TreeMacros.assignParameters scope names arguments') := by
  induction names generalizing w arguments arguments' with
  | nil => exact .same ()
  | cons name rest ih =>
      refine (Agree.assign scope name like.firstArgument).bind fun v le _ _ _ => ih ?_
      have others := List.forall₂_drop 1 (like.mono le)
      rwa [List.drop_one, List.drop_one] at others

theorem Agree.defineParameters (scope : Scope) (names : List String) {nodes nodes' : List Node}
    (like : L.AllData nodes nodes') :
    L.Agree w (fun _ => Eq) (defineParameters scope names nodes)
      (TreeMacros.defineParameters scope names nodes') := by
  induction names generalizing w nodes nodes' with
  | nil => exact .same ()
  | cons name rest ih =>
      cases like with
      | nil =>
          exact (Agree.define scope name (.node (.leaf _ _ (L.place_refl none)))).bind
            fun _ _ _ _ _ => ih .nil
      | cons first others =>
          exact (Agree.define scope name (.node first)).bind fun _ _ _ _ _ => ih others

theorem Agree.bindArguments (scope : Scope) (params : List String) {nodes nodes' : List Node}
    (like : L.AllData nodes nodes') :
    L.Agree w (fun _ => Eq) (bindArguments scope params nodes)
      (TreeMacros.bindArguments scope params nodes') := by
  match params with
  | [only] => exact (Agree.newNodeList like).bind fun _ _ _ _ => .define scope only
  | [] | _ :: _ :: _ => exact .defineParameters scope _ like

/-! ## Levels -/

namespace Levels

variable {level level' : Level} (below : L.Levels level level')

include below

theorem callClosure {closure closure' : Closure} (closures : L.Closures closure closure')
    {arguments arguments' : List Value} (like : L.Listed w arguments arguments') :
    L.Agree w L.Values (level.callClosure closure arguments)
      (level'.callClosure closure' arguments') := by
  obtain ⟨name, params, body, outside, kind⟩ := closure
  obtain ⟨name', params', body', outside', kind'⟩ := closure'
  obtain ⟨rfl, rfl, code, rfl, rfl⟩ := closures
  refine (Agree.newFrameIn outside).bind fun v le scope scope' same => ?_
  subst same
  refine (Agree.assignParameters scope params (like.mono le)).bind fun u _ _ _ _ => ?_
  have evaluated : L.Agree u L.Values (level.evalAll body scope) (level'.evalAll body' scope) :=
    below.evalAll code scope .null
  cases kind with
  | function => exact evaluated.catchReturn
  | lambda => exact evaluated

theorem runDefinition {registry registry' : Registry}
    (registries : L.Registries registry registry')
    {definition definition' : Definition} (like : L.Definitions definition definition')
    {nodes nodes' : List Node} (all : L.AllData nodes nodes') :
    L.Agree w (fun _ => L.Expansions) (level.runDefinition registry definition nodes)
      (level'.runDefinition registry' definition' nodes') := by
  obtain ⟨params, body⟩ := definition
  obtain ⟨params', body'⟩ := definition'
  obtain ⟨rfl, code⟩ := like
  refine Agree.newBaseScope.bind fun _ _ base base' same => ?_
  subst same
  refine (Agree.newFrameIn base).bind fun _ _ scope scope' same => ?_
  subst same
  refine (Agree.bindArguments scope params all).bind fun _ _ _ _ _ => ?_
  refine (Agree.bindRegistry scope registries).bind fun u _ _ _ _ => ?_
  have evaluated : L.Agree u L.Values (level.evalAll body scope) (level'.evalAll body' scope) :=
    below.evalAll code scope .null
  exact evaluated.catchReturn.bind fun _ _ _ _ => .toExpansion

end Levels

/-- The lowest levels are alike if they refuse alike. -/
theorem Levels.floor {machine machine' : Machine} (same : machine.refusal = machine'.refusal) :
    L.Levels (machine.level 0) (machine'.level 0) := by
  have refuses : ∀ {α β : Type} {R : World → α → β → Prop} {w : World} {span span' : Option Span},
      L.place span span' →
      L.Agree w R (Eval.fail machine.refusal span) (Eval.fail machine'.refusal span') :=
    fun places => same ▸ .fail _ places
  exact ⟨fun _ _ _ code _ => refuses code.loc, fun _ _ _ _ _ _ _ => refuses (L.place_refl none),
    fun _ _ _ _ _ _ _ => refuses (L.place_refl none)⟩

variable (L) in
/-- Where two runs of macros end. -/
inductive Outcomes {α β : Type} (R : α → β → Prop) : Except Failure α → Except Failure β → Prop
  | ok {a : α} {b : β} (results : R a b) : Outcomes R (.ok a) (.ok b)
  | fault {f f' : Fault} (faults : L.fault f f') :
      Outcomes R (.error (.fault f)) (.error (.fault f'))
  | endless (what : Endless) (turns : what = .loop → L.loops) :
      Outcomes R (.error (.endless what)) (.error (.endless what))
  | excused {failure : Failure} (excuse : L.excuses failure) (result : Except Failure β) :
      Outcomes R (.error failure) result

theorem Stores.empty : L.Stores .empty {} {} where
  lists := rfl
  items _ := .nil
  frames := rfl
  bound _ _ := .none
  known := nofun

namespace Machines

variable {machine machine' : Machine} (machines : L.Machines machine machine')

include machines

theorem inTime {α β : Type} {R : World → α → β → Prop} {span span' : Option Span}
    (places : L.place span span') {action : Eval α} {action' : Eval β}
    (inner : L.Agree w R action action') :
    L.Agree w R (machine.inTime span action) (machine'.inTime span' action') := by
  unfold Machine.inTime
  rw [machines.deadlinePassed]
  split
  · exact .fail _ places
  · exact inner

/-- Levels are alike if the ones that they stand on are, as many levels below. -/
theorem levels {base : Nat} (alike : L.Levels (machine.level 0) (machine'.level base))
    (depth : Nat) : L.Levels (machine.level depth) (machine'.level (base + depth)) := by
  induction depth with
  | zero => exact alike
  | succ depth below =>
      refine ⟨fun w node node' code scope => ?_, fun w closure closure' closures _ _ like => ?_,
        fun w definition definition' definitions _ _ all => ?_⟩
      · exact machines.inTime code.loc (machines.evalNode below code scope)
      · exact machines.inTime (L.place_refl none) (below.callClosure closures like)
      · exact machines.inTime (L.place_refl none)
          (below.runDefinition machines.registry definitions all)

/-- Runs at the same height above levels that are alike are alike if they are given nodes that
    are. -/
theorem result {base : Nat} (alike : L.Levels (machine.level 0) (machine'.level base))
    (depth : Nat) {definition definition' : Definition}
    (definitions : L.Definitions definition definition') {nodes nodes' : List Node}
    (all : L.AllData nodes nodes') :
    L.Outcomes L.Expansions ((machine.level depth).run definition nodes).result
      ((machine'.level (base + depth)).run definition' nodes').result := by
  have ends := (machines.levels alike depth).run .empty definitions all
    .empty le_rfl {} {} Stores.empty
  unfold Eval.result
  generalize (machine.level depth).run definition nodes {} = result,
    (machine'.level (base + depth)).run definition' nodes' {} = result' at ends
  cases ends with
  | ok _ _ results => exact .ok results
  | error _ _ unwinds =>
      cases unwinds with
      | returned => exact .fault (L.fault_of .escapedReturn (L.place_refl none))
      | fault like => exact .fault like
      | endless what turns => exact .endless what turns
  | excused excuse => exact .excused excuse _

/-- Runs are alike if they are given nodes that are alike. -/
theorem run {base : Nat} (alike : L.Levels (machine.level 0) (machine'.level base))
    (depths : machine'.maxDepth = base + machine.maxDepth) {definition definition' : Definition}
    (definitions : L.Definitions definition definition') {nodes nodes' : List Node}
    (all : L.AllData nodes nodes') :
    L.Outcomes L.Expansions (machine.run definition nodes) (machine'.run definition' nodes') := by
  rw [Machine.run_eq, Machine.run_eq, Machine.top, Machine.top, depths]
  exact machines.result alike machine.maxDepth definitions all

end Machines

end Likeness

end TreeMacros
