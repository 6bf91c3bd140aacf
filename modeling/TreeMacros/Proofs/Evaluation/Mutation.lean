import TreeMacros.Evaluation.Builtin
import TreeMacros.Proofs.Evaluation.Isolation
import TreeMacros.Proofs.Store.References

/-! # What calls change

A function that macro bodies start with, or a method, changes at most the list that it is applied
to, and few do so. What it makes a list of is copied, so that the new list and those it comes from
can be changed apart. `map` changes what the function changes that it calls on each item, and the
items are those that the list has when the call starts.
-/

namespace TreeMacros

namespace Native

/-- The list that a call changes, if it changes one. -/
def changed? : Native → List Value → Option ListId
  | builtin .push, arguments | builtin .pop, arguments => (argument arguments 0).list?
  | listMethod .push receiver, _ | listMethod .pop receiver, _ | listMethod .reverse receiver, _ =>
    some receiver
  | _, _ => none

/-- Whether a call returns a list that it makes. -/
def makesList : Native → Bool
  | builtin .regular | builtin .group | builtin .parse | builtin .list | builtin .rest
  | builtin .reversed | builtin .range => true
  | listMethod .slice _ | listMethod .concat _ | textMethod .split _ => true
  | _ => false

/-- Whether the function is one that macro bodies start with or a method, and does not call
    back. -/
def isPlain : Native → Bool
  | builtin .map | registered .. => false
  | _ => true

end Native

namespace Eval

variable {α β : Type}

/-! ## Computations that change at most one list -/

/-- However the computation ends, it has changed the items of at most one list. -/
def KeepsBut (changed : Option ListId) (action : Eval α) : Prop :=
  ∀ store : Store, store.KeepsBut changed (action.after store)

theorem ReadsOnly.ofExcept (result : Except Fault α) : ReadsOnly (Eval.ofExcept result) := by
  cases result with
  | ok a => exact .pure a
  | error fault => exact fun _ => .inr ⟨_, rfl⟩

theorem ReadsOnly.items (id : ListId) : ReadsOnly (Eval.items id) :=
  store.bind fun _ => .pure _

namespace KeepsBut

variable {changed : Option ListId} {action : Eval α} {next : α → Eval β}

theorem of_readsOnly (reads : ReadsOnly action) : KeepsBut changed action := by
  intro store
  rw [reads.after_eq]
  exact .refl store

theorem bind (first : KeepsBut changed action) (rest : ∀ a, KeepsBut changed (next a)) :
    KeepsBut changed (action >>= next) := by
  intro store
  rw [after_bind]
  cases action.outcome store with
  | ok a => exact (first store).trans (rest a _)
  | error unwind => exact first store

theorem newList (items : Array Value) : KeepsBut changed (Eval.newList items) :=
  fun store => .newList store items

theorem newNodeList (nodes : List Node) : KeepsBut changed (Eval.newNodeList nodes) :=
  newList _

theorem newNative (native : Native) : KeepsBut changed (Eval.newNative native) :=
  fun _ => ⟨Nat.le_refl _, fun _ _ _ => rfl, rfl⟩

theorem print (line : String) : KeepsBut changed (modify (·.print line) : Eval PUnit) :=
  fun _ => ⟨Nat.le_refl _, fun _ _ _ => rfl, rfl⟩

theorem modifyList (id : ListId) (change : Array Value → Array Value) :
    KeepsBut (some id) (Eval.modifyList id change) :=
  fun store => .modifyList store id change

end KeepsBut

/-! ## Computations that make a list -/

/-- The computation returns nothing but a list that was not there before. -/
def MakesList (action : Eval Value) : Prop :=
  ∀ store value, action.outcome store = .ok value →
    ∃ id, value = .list id ∧ store.lists.size ≤ id ∧ id < (action.after store).lists.size

namespace MakesList

theorem newList (items : Array Value) : MakesList (Eval.newList items) := by
  intro store value returned
  obtain rfl : Value.list store.lists.size = value := Except.ok.inj returned
  refine ⟨_, rfl, Nat.le_refl _, ?_⟩
  have size : ((Eval.newList items).after store).lists.size = store.lists.size + 1 :=
    Array.size_push _
  exact size ▸ Nat.lt_succ_self _

theorem newNodeList (nodes : List Node) : MakesList (Eval.newNodeList nodes) :=
  newList _

theorem fail (cause : Cause) (span : Option Span) : MakesList (Eval.fail cause span) :=
  fun _ _ => nofun

theorem forever (what : Endless) : MakesList (Eval.forever what) :=
  fun _ _ => nofun

theorem bind {action : Eval α} {next : α → Eval Value} (reads : ReadsOnly action)
    (rest : ∀ a, MakesList (next a)) : MakesList (action >>= next) := by
  intro store value returned
  rw [outcome_bind, reads.after_eq] at returned
  rw [after_bind, reads.after_eq]
  cases first : action.outcome store with
  | ok a =>
      rw [first] at returned
      exact rest a store value returned
  | error unwind =>
      rw [first] at returned
      cases returned

end MakesList

end Eval

/-! ## Calls -/

open Eval

variable (arguments : List Value)

theorem NodeMaker.readsOnly_call (maker : NodeMaker) : ReadsOnly (maker.call arguments) := by
  cases maker with
  | leaf kind => exact (ReadsOnly.textOf _).bind fun _ => .pure _
  | binop =>
      refine (ReadsOnly.toNode _).bind fun left => (ReadsOnly.toNode _).bind fun right => ?_
      exact (ReadsOnly.textOf _).bind fun _ => .pure _
  | bracket kind => exact ReadsOnly.store.bind fun _ => .pure _

theorem Builtin.keepsBut_call (machine : Machine) (builtin : Builtin) :
    KeepsBut (Native.changed? (.builtin builtin) arguments) (builtin.call machine arguments) := by
  have reads {α : Type} {action : Eval α} (reads : ReadsOnly action) :
      KeepsBut (Native.changed? (.builtin builtin) arguments) action := .of_readsOnly reads
  unfold call
  cases builtin with
  | regular => exact (reads .store).bind fun _ => .newNodeList _
  | group => exact (reads .store).bind fun _ => (reads (.ofExcept _)).bind fun _ => .newNodeList _
  | parse =>
      cases argument arguments 0 with
      | text source => exact (reads (.ofExcept _)).bind fun _ => .newNodeList _
      | _ => exact reads (.fail _ _)
  | length =>
      cases argument arguments 0 with
      | list id => exact reads ((ReadsOnly.items id).bind fun _ => .pure _)
      | _ => exact reads (.pure _)
  | text | integer | float => exact reads ((ReadsOnly.textOf _).bind fun _ => .pure _)
  | list | rest | reversed => exact (reads .store).bind fun _ => .newList _
  | first => exact reads (ReadsOnly.store.bind fun _ => .pure _)
  | push =>
      simp only [Native.changed?]
      cases argument arguments 0 with
      | list id =>
          refine (KeepsBut.modifyList id _).bind fun _ => ?_
          exact .of_readsOnly ((ReadsOnly.items id).bind fun _ => .pure _)
      | _ => exact .of_readsOnly (.pure _)
  | pop =>
      simp only [Native.changed?]
      cases argument arguments 0 with
      | list id =>
          refine (KeepsBut.of_readsOnly (.items id)).bind fun _ => ?_
          exact (KeepsBut.modifyList id _).bind fun _ => .of_readsOnly (.pure _)
      | _ => exact .of_readsOnly (.pure _)
  | range =>
      dsimp only
      split
      · exact .newList _
      · exact reads fun _ => .inr ⟨_, rfl⟩
  | map => exact .newList _
  | print =>
      exact (reads (.mapM .textOf _)).bind fun _ => (KeepsBut.print _).bind fun _ => reads (.pure _)
  | assert =>
      dsimp only
      split
      · exact reads (.pure _)
      · split
        · exact reads ((ReadsOnly.textOf _).bind fun _ => .fail _ _)
        · exact reads (.fail _ _)
  | isInstance => exact reads (.pure _)

theorem Builtin.makesList_call (machine : Machine) {builtin : Builtin}
    (makes : Native.makesList (.builtin builtin) = true) :
    MakesList (builtin.call machine arguments) := by
  unfold call
  cases builtin with
  | regular => exact .bind .store fun _ => .newNodeList _
  | group => exact .bind .store fun _ => .bind (.ofExcept _) fun _ => .newNodeList _
  | parse =>
      cases argument arguments 0 with
      | text source => exact .bind (.ofExcept _) fun _ => .newNodeList _
      | _ => exact .fail _ _
  | list | rest | reversed => exact .bind .store fun _ => .newList _
  | range =>
      dsimp only
      split
      · exact .newList _
      · exact .forever _
  | _ => cases makes

theorem ListMethod.keepsBut_call (method : ListMethod) (receiver : ListId) :
    KeepsBut (Native.changed? (.listMethod method receiver) arguments)
      (method.call receiver arguments) := by
  have reads {α : Type} {action : Eval α} (reads : ReadsOnly action) :
      KeepsBut (Native.changed? (.listMethod method receiver) arguments) action :=
    .of_readsOnly reads
  cases method with
  | push =>
      exact (KeepsBut.modifyList receiver _).bind fun _ => (reads (.items _)).bind fun _ =>
        reads (.pure _)
  | pop =>
      exact (reads (.items _)).bind fun _ => (KeepsBut.modifyList receiver _).bind fun _ =>
        reads (.pure _)
  | slice => exact (reads (.items _)).bind fun _ => .newList _
  | concat => exact (reads .store).bind fun _ => .newList _
  | includes => exact reads ((ReadsOnly.items _).bind fun _ => .pure _)
  | indexOf =>
      refine reads ((ReadsOnly.items _).bind fun items => ?_)
      split <;> exact .pure _
  | join =>
      refine reads ((ReadsOnly.items _).bind fun items => ?_)
      refine (ReadsOnly.mapM ?_ _).bind fun _ => .pure _
      intro item
      split
      · exact .pure _
      · exact .textOf _
  | reverse => exact (KeepsBut.modifyList receiver _).bind fun _ => reads (.pure _)

theorem ListMethod.makesList_call {method : ListMethod} {receiver : ListId}
    (makes : Native.makesList (.listMethod method receiver) = true) :
    MakesList (method.call receiver arguments) := by
  cases method with
  | slice => exact .bind (.items _) fun _ => .newList _
  | concat => exact .bind .store fun _ => .newList _
  | _ => cases makes

theorem TextMethod.readsOnly_argumentText : ReadsOnly (argumentText arguments) := by
  unfold argumentText
  split
  · exact (ReadsOnly.textOf _).bind fun _ => .pure _
  · exact .pure _

theorem TextMethod.keepsBut_call {changed : Option ListId} (method : TextMethod)
    (receiver : String) : KeepsBut changed (method.call receiver arguments) := by
  have text := readsOnly_argumentText arguments
  cases method with
  | upper | lower | slice => exact .of_readsOnly (.pure _)
  | startsWith | endsWith | includes => exact .of_readsOnly (text.bind fun _ => .pure _)
  | split =>
      unfold call
      dsimp only
      split
      · exact .newList _
      · exact .newList _
      · exact (KeepsBut.of_readsOnly text).bind fun _ => .newList _

theorem TextMethod.makesList_call {method : TextMethod} {receiver : String}
    (makes : Native.makesList (.textMethod method receiver) = true) :
    MakesList (method.call receiver arguments) := by
  cases method with
  | split =>
      unfold call
      dsimp only
      split
      · exact .newList _
      · exact .newList _
      · exact .bind (readsOnly_argumentText arguments) fun _ => .newList _
  | _ => cases makes

theorem Native.makesList_callPlain (machine : Machine) (level : Level) {native : Native}
    (makes : native.makesList = true) :
    MakesList (native.callPlain machine level arguments) := by
  cases native with
  | builtin builtin => exact builtin.makesList_call arguments machine makes
  | listMethod method receiver => exact method.makesList_call arguments makes
  | textMethod method receiver => exact method.makesList_call arguments makes
  | maker maker => cases makes
  | registered name entry => cases makes

theorem Native.keepsBut_callPlain (machine : Machine) (level : Level) {native : Native}
    (plain : native.isPlain = true) :
    KeepsBut (native.changed? arguments) (native.callPlain machine level arguments) := by
  cases native with
  | builtin builtin => exact builtin.keepsBut_call arguments machine
  | maker maker => exact .of_readsOnly (maker.readsOnly_call arguments)
  | listMethod method receiver => exact method.keepsBut_call arguments receiver
  | textMethod method receiver => exact method.keepsBut_call arguments receiver
  | registered name entry => cases plain

/-- What makes a list changes none. -/
theorem Native.changed?_of_makesList {native : Native} (makes : native.makesList = true) :
    native.changed? arguments = none := by
  cases native with
  | builtin builtin => cases builtin <;> first | rfl | cases makes
  | listMethod method receiver => cases method <;> first | rfl | cases makes
  | _ => rfl

theorem Native.call_eq_callPlain (machine : Machine) (level : Level) (identity : Identity)
    {native : Native} (plain : native.isPlain = true) :
    (Value.native identity native).call machine level arguments =
      native.callPlain machine level arguments := by
  cases native with
  | builtin builtin =>
      cases builtin with
      | map => cases plain
      | _ => rfl
  | _ => rfl

/-! ## Members -/

theorem Node.keepsBut_part? (node : Node) (name : String) : KeepsBut none (node.part? name) := by
  unfold part?
  split
  case h_6 => exact (KeepsBut.newNodeList _).bind fun _ => .of_readsOnly (.pure _)
  all_goals exact .of_readsOnly (.pure _)

theorem Value.keepsBut_member? (receiver : Value) (name : String) :
    KeepsBut none (receiver.member? name) := by
  cases receiver with
  | node n => exact n.keepsBut_part? name
  | list id =>
      unfold member?
      dsimp only
      split
      · exact .of_readsOnly ((ReadsOnly.items _).bind fun _ => .pure _)
      · split
        · exact (KeepsBut.newNative _).bind fun _ => .of_readsOnly (.pure _)
        · exact .of_readsOnly (.pure _)
  | text s =>
      unfold member?
      dsimp only
      split
      · exact .of_readsOnly (.pure _)
      · split
        · exact (KeepsBut.newNative _).bind fun _ => .of_readsOnly (.pure _)
        · exact .of_readsOnly (.pure _)
  | _ => exact .of_readsOnly (.pure _)

/-- A function that is a member is a method of what it was taken from. -/
theorem Value.method_of_member? {receiver : Value} {name : String} {store : Store}
    {identity : Identity} {native : Native}
    (found : (receiver.member? name).outcome store = .ok (some (.native identity native))) :
    (∃ method id, receiver = .list id ∧ native = .listMethod method id) ∨
      ∃ method text, receiver = .text text ∧ native = .textMethod method text := by
  cases receiver with
  | node n =>
      unfold member? Node.part? at found
      dsimp only at found
      split at found <;> cases found
  | list id =>
      unfold member? at found
      dsimp only at found
      split at found
      · cases found
      · split at found
        · next method _ =>
            cases found
            exact .inl ⟨method, id, rfl, rfl⟩
        · cases found
  | text s =>
      unfold member? at found
      dsimp only at found
      split at found
      · cases found
      · split at found
        · next method _ =>
            cases found
            exact .inr ⟨method, s, rfl, rfl⟩
        · cases found
  | _ => cases found

/-- The nodes of a node are a list that was not there. -/
theorem Value.made_of_nodes {receiver value : Value} {store : Store}
    (found : (receiver.member? "nodes").outcome store = .ok (some value)) :
    ∃ id, value = .list id ∧ store.lists.size ≤ id ∧
      id < ((receiver.member? "nodes").after store).lists.size := by
  cases receiver with
  | node n =>
      cases n with
      | bracket kind children loc =>
          cases found
          exact MakesList.newNodeList children store _ rfl
      | _ => cases found
  | _ => cases found

/-! ## Calls in a row -/

namespace Eval

variable {α β : Type}

/-- The store after computations that are done one after the other, however each one ends. -/
def afterEach (each : α → Eval β) (items : List α) (store : Store) : Store :=
  items.foldl (fun store item => (each item).after store) store

/-- A list that none of them changes stays as it is. -/
theorem items_afterEach {each : α → Eval β} {changed : α → Option ListId} {items : List α}
    (keeps : ∀ item ∈ items, KeepsBut (changed item) (each item)) {id : ListId}
    (other : ∀ item ∈ items, changed item ≠ some id) {store : Store}
    (there : id < store.lists.size) : (afterEach each items store).items id = store.items id := by
  induction items generalizing store with
  | nil => rfl
  | cons item rest ih =>
      have kept := keeps item List.mem_cons_self store
      have still : id < ((each item).after store).lists.size := Nat.lt_of_lt_of_le there kept.size
      calc
        (afterEach each rest ((each item).after store)).items id
        _ = ((each item).after store).items id :=
          ih (fun i mem => keeps i (.tail _ mem)) (fun i mem => other i (.tail _ mem)) still
        _ = store.items id := kept.items id there (other item List.mem_cons_self)

/-- Of computations in a row those up to the first that ends early are done. -/
theorem mapM_ran (each : α → Eval β) (items : List α) (store : Store) :
    ∃ ran, ran <+: items ∧ (items.mapM each).after store = afterEach each ran store ∧
      ∀ results, (items.mapM each).outcome store = .ok results → ran = items := by
  induction items generalizing store with
  | nil => exact ⟨[], List.prefix_refl _, rfl, fun _ _ => rfl⟩
  | cons item rest ih =>
      rw [List.mapM_cons, after_bind, outcome_bind]
      cases first : (each item).outcome store with
      | error unwind =>
          refine ⟨[item], ?_, rfl, fun _ returned => nomatch returned⟩
          exact List.prefix_append [item] rest
      | ok a =>
          obtain ⟨ran, within, after, done⟩ := ih ((each item).after store)
          refine ⟨item :: ran, List.cons_prefix_cons.mpr ⟨rfl, within⟩, ?_, ?_⟩
          · dsimp only
            rw [after_bind]
            cases (rest.mapM each).outcome ((each item).after store) <;> exact after
          · intro results returned
            simp only [Except.bind] at returned
            rw [outcome_bind] at returned
            cases ended : (rest.mapM each).outcome ((each item).after store) with
            | ok others => rw [done others ended]
            | error unwind =>
                rw [ended] at returned
                cases returned

end Eval

/-! ## Mapping -/

/-- What `map` calls its function on: the items of its list, or nothing if one of the two is
    missing. -/
def mapped (store : Store) (arguments : List Value) : List Value :=
  if (argument arguments 0).isCallable then ((argument arguments 1).listItems store).toList else []

/-- `map` called by itself has no list to go through, so that it need not call back. -/
theorem callEach_eq (machine : Machine) (level : Level) (callee item : Value) :
    callEach machine level callee item = callee.call machine level [item] := by
  cases callee with
  | native identity native =>
      cases native with
      | builtin builtin =>
          cases builtin with
          | map => rfl
          | _ => rfl
      | _ => rfl
  | _ => rfl

theorem callMap_eq (machine : Machine) (level : Level) :
    callMap machine level arguments = (get >>= fun store =>
      (mapped store arguments).mapM ((argument arguments 0).call machine level [·]) >>=
        fun results => Eval.newList results.toArray) := by
  have each : callEach machine level (argument arguments 0) =
      ((argument arguments 0).call machine level [·]) := funext (callEach_eq machine level _)
  unfold callMap mapped
  cases argument arguments 1 with
  | list id =>
      simp only [each, Value.listItems]
      cases (argument arguments 0).isCallable <;> rfl
  | _ => cases (argument arguments 0).isCallable <;> rfl

/-- `map` changes what the calls change that it makes, and returns a list that none of them
    made. -/
theorem callMap_ran (machine : Machine) (level : Level) (store : Store) :
    let each (item : Value) := (argument arguments 0).call machine level [item]
    let items := mapped store arguments
    let call := callMap machine level arguments
    ∃ ran, ran <+: items ∧
      (afterEach each ran store).KeepsBut none (call.after store) ∧
      ∀ value, call.outcome store = .ok value → ran = items ∧
        ∃ id, value = .list id ∧ (afterEach each ran store).lists.size ≤ id ∧
          id < (call.after store).lists.size := by
  intro each items call
  obtain ⟨ran, within, after, done⟩ := mapM_ran each items store
  have steps : call store = (items.mapM each >>= fun results =>
      Eval.newList results.toArray) store := by
    rw [show call = _ from callMap_eq arguments machine level]
    rfl
  have ends : call.after store = (items.mapM each >>= fun results =>
      Eval.newList results.toArray).after store := by
    rw [Eval.after, steps, Eval.after]
  refine ⟨ran, within, ?_, ?_⟩
  · rw [ends, after_bind, after]
    cases (items.mapM each).outcome store with
    | ok results => exact KeepsBut.newList _ _
    | error unwind => exact .refl _
  · intro value returned
    rw [Eval.outcome, steps, ← Eval.outcome, outcome_bind] at returned
    rw [ends, after_bind]
    cases ended : (items.mapM each).outcome store with
    | ok results =>
        rw [ended, after] at returned
        rw [after]
        exact ⟨done results ended, MakesList.newList _ _ _ returned⟩
    | error unwind =>
        rw [ended] at returned
        cases returned

/-- A call of a function that macro bodies start with, `map` apart, or of a method changes no
    variable and at most the items of one list: the one that `push`, `pop` or `reverse` is applied
    to. To look a member up changes nothing. What is made a list of is a new list, which nothing
    refers to that was there before, so that calls that change one of them leave the other as it
    is. `reverse` returns the list itself. `map` changes what its calls change, one after the
    other, and then makes a new list. -/
theorem lists_changed (machine : Machine) (level : Level) {store : Store}
    (closed : store.IsClosed) :
    let call identity native arguments :=
      (Value.native identity native).call machine level arguments
    (∀ identity native arguments, native.isPlain →
      let called := call identity native arguments
      store.KeepsBut (native.changed? arguments) (called.after store) ∧
      ∀ value, called.outcome store = .ok value →
        (native.makesList → ∃ id, value = .list id ∧ (called.after store).IsNew store id) ∧
        ∀ receiver, native = .listMethod .reverse receiver → value = .list receiver) ∧
    (∀ (receiver : Value) name,
      let found := receiver.member? name
      store.KeepsBut none (found.after store) ∧
      ∀ value, found.outcome store = .ok (some value) →
        (name = "nodes" → ∃ id, value = .list id ∧ (found.after store).IsNew store id) ∧
        ∀ identity native, value = .native identity native →
          (∃ method id, receiver = .list id ∧ native = .listMethod method id) ∨
          ∃ method text, receiver = .text text ∧ native = .textMethod method text) ∧
    (∀ identity arguments,
      let called := call identity (.builtin .map) arguments
      let each item := (argument arguments 0).call machine level [item]
      ∃ ran, ran <+: mapped store arguments ∧
        (afterEach each ran store).KeepsBut none (called.after store) ∧
        ∀ value, called.outcome store = .ok value → ran = mapped store arguments ∧
          ∃ id, value = .list id ∧ (afterEach each ran store).lists.size ≤ id ∧
            id < (called.after store).lists.size) ∧
    ∀ identity (later : Store) (calls : List (Native × List Value)), ∀ id < later.lists.size,
      (∀ c ∈ calls, c.1.isPlain ∧ c.1.changed? c.2 ≠ some id) →
      (afterEach (fun c => call identity c.1 c.2) calls later).items id = later.items id := by
  intro call
  refine ⟨?_, ?_, fun _ arguments => callMap_ran arguments machine level store, ?_⟩
  · intro identity native arguments plain called
    have same : called = native.callPlain machine level arguments :=
      Native.call_eq_callPlain arguments machine level identity plain
    have kept : store.KeepsBut (native.changed? arguments) (called.after store) := by
      rw [same]
      exact Native.keepsBut_callPlain arguments machine level plain store
    refine ⟨kept, fun value returned => ⟨fun makes => ?_, ?_⟩⟩
    · rw [same] at returned
      obtain ⟨id, listed, made, there⟩ :=
        Native.makesList_callPlain arguments machine level makes store value returned
      rw [← same] at there
      rw [Native.changed?_of_makesList arguments makes] at kept
      exact ⟨id, listed, kept.isNew closed made there⟩
    · rintro receiver rfl
      cases returned
      rfl
  · intro receiver name found
    have kept := receiver.keepsBut_member? name store
    refine ⟨kept, fun value returned => ⟨?_, ?_⟩⟩
    · rintro rfl
      obtain ⟨id, listed, made, there⟩ := Value.made_of_nodes returned
      exact ⟨id, listed, kept.isNew closed made there⟩
    · rintro identity native rfl
      exact Value.method_of_member? returned
  · intro identity later calls id there apart
    have keeps : ∀ c ∈ calls, KeepsBut (c.1.changed? c.2) (call identity c.1 c.2) := by
      intro c mem
      simp only [call, Native.call_eq_callPlain c.2 machine level identity (apart c mem).1]
      exact Native.keepsBut_callPlain c.2 machine level (apart c mem).1
    exact items_afterEach keeps (fun c mem => (apart c mem).2) there

/-- A list that is inside itself and has a variable, and what is pushed to its rest. -/
theorem lists_changed_shared :
    let store : Store :=
      { lists := #[#[.list 1, .list 0], #[.null]], frames := #[[("xs", .list 0)]] }
    let call native arguments := (Value.native 0 native).call {} (Machine.top {}) arguments
    let rested := (call (.builtin .rest) [.list 0]).after store
    store.IsClosed ∧ (call (.builtin .rest) [.list 0]).outcome store = .ok (.list 2) ∧
      rested.IsNew store 2 ∧
      ((call (.listMethod .push 2) [.null]).after rested).items 0 = store.items 0 := by
  intro store call rested
  have closed : store.IsClosed := by
    constructor
    · intro id item mem target refers
      rcases id with _ | _ | id
      · have known : item = .list 1 ∨ item = .list 0 := by simpa [Store.items, store] using mem
        rcases known with rfl | rfl <;> cases refers <;> decide
      · have known : item = .null := by simpa [Store.items, store] using mem
        cases known ▸ refers
      · simp [Store.items, store] at mem
    · intro frame name value bound target refers
      cases frame with
      | zero =>
          obtain ⟨before, after, entries, -⟩ := List.lookup_eq_some_iff.mp bound
          have mem : (name, value) ∈ store.frame 0 := by simp [entries]
          obtain ⟨-, rfl⟩ : name = "xs" ∧ value = .list 0 := by
            simpa [Store.frame, store] using mem
          cases refers
          decide
      | succ frame => simp [Store.frame, store] at bound
  obtain ⟨calls, -, -, row⟩ := lists_changed {} (Machine.top {}) closed
  obtain ⟨kept, returns⟩ := calls 0 (.builtin .rest) [.list 0] rfl
  obtain ⟨id, listed, new⟩ := (returns _ rfl).1 rfl
  cases listed
  refine ⟨closed, rfl, new, ?_⟩
  have pushed := row 0 rested [(.listMethod .push 2, [.null])] 0
    (Nat.lt_of_lt_of_le (by decide) kept.size) (by decide)
  exact pushed.trans (kept.items 0 (by decide) (by decide))

end TreeMacros
