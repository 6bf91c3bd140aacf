import Mathlib.Data.List.Forall2
import Mathlib.Order.Monotone.Basic
import TreeMacros.Evaluation
import TreeMacros.Proofs.Node.Likeness
import TreeMacros.Proofs.Store.Frames

/-! # Runs that are alike

Two runs are compared step by step. What counts as the same place and as the same fault is left
open, and so is what may happen after certain failures of the first run. Lists and frames get the
same references in both runs. Functions need not get the same identities, but which functions are
the same in one run are the same in the other; a `World` says which of them correspond, and grows.
-/

namespace TreeMacros

/-- Results that are alike, or faults that are. -/
inductive Except.Like {α β : Type} (fault : Fault → Fault → Prop) (R : α → β → Prop) :
    Except Fault α → Except Fault β → Prop
  | ok {a : α} {b : β} (results : R a b) : Like fault R (.ok a) (.ok b)
  | error {f f' : Fault} (faults : fault f f') : Like fault R (.error f) (.error f')

theorem Except.Like.refl {α : Type} {fault : Fault → Fault → Prop} {R : α → α → Prop}
    (faults : ∀ f, fault f f) (results : ∀ a, R a a) :
    ∀ result : Except Fault α, Except.Like fault R result result
  | .ok a => .ok (results a)
  | .error f => .error (faults f)

theorem Except.Like.imp {α β : Type} {fault : Fault → Fault → Prop} {R S : α → β → Prop}
    (weaker : ∀ a b, R a b → S a b) {result : Except Fault α} {result' : Except Fault β}
    (like : Except.Like fault R result result') : Except.Like fault S result result' := by
  cases like with
  | ok results => exact .ok (weaker _ _ results)
  | error faults => exact .error faults

theorem Except.Like.bind {α β γ δ : Type} {fault : Fault → Fault → Prop} {R : α → β → Prop}
    {S : γ → δ → Prop} {result : Except Fault α} {result' : Except Fault β}
    {next : α → Except Fault γ} {next' : β → Except Fault δ}
    (first : Except.Like fault R result result')
    (rest : ∀ a b, R a b → Except.Like fault S (next a) (next' b)) :
    Except.Like fault S (result >>= next) (result' >>= next') := by
  cases first with
  | ok results => exact rest _ _ results
  | error faults => exact .error faults

theorem optionRel_imp {α β : Type} {R S : α → β → Prop} (weaker : ∀ a b, R a b → S a b)
    {found : Option α} {found' : Option β} (like : Option.Rel R found found') :
    Option.Rel S found found' := by
  cases like with
  | none => exact .none
  | some like => exact .some (weaker _ _ like)

theorem optionRel_isSome {α β : Type} {R : α → β → Prop} {found : Option α} {found' : Option β}
    (like : Option.Rel R found found') : found.isSome = found'.isSome := by
  cases like <;> rfl

theorem optionRel_none {α β : Type} {R : α → β → Prop} {found' : Option β}
    (like : Option.Rel R none found') : found' = none := by
  cases like
  rfl

theorem optionRel_some {α β : Type} {R : α → β → Prop} {a : α} {found' : Option β}
    (like : Option.Rel R (some a) found') : ∃ b, found' = some b ∧ R a b := by
  cases like with
  | some like => exact ⟨_, rfl, like⟩

theorem mapM_eq_of_forall₂ {α β γ : Type} {r : α → β → Prop} {f : α → Option γ}
    {g : β → Option γ} (same : ∀ a b, r a b → f a = g b) {as : List α} {bs : List β}
    (like : List.Forall₂ r as bs) : as.mapM f = bs.mapM g := by
  induction like with
  | nil => rfl
  | cons first _ ih => rw [List.mapM_cons, List.mapM_cons, same _ _ first, ih]

/-- There is nothing to bind in a frame that does not exist. -/
theorem Store.bind_absent {store : Store} {id : FrameId} (absent : ¬id < store.frames.size)
    (name : String) (value : Value) : store.bind id name value = store := by
  simp [bind, Array.modify, Array.modifyM, absent]

/-- What may differ between two runs. -/
structure Likeness where
  /-- Places that count as the same. -/
  place : Option Span → Option Span → Prop
  /-- Faults that count as the same. -/
  fault : Fault → Fault → Prop
  /-- Whether macros may hold loops. -/
  loops : Prop
  /-- Failures of the first run after which the second may do as it likes. -/
  excuses : Failure → Prop
  /-- What the hosts of the two runs do for them. -/
  services : Services
  services' : Services
  place_refl : ∀ loc, place loc loc
  fault_of : ∀ cause {loc loc'}, place loc loc' →
    fault { cause, span := loc } { cause, span := loc' }
  fault_locate : ∀ {f f' loc loc'}, fault f f' → place loc loc' →
    fault (f.locate loc) (f'.locate loc')
  excuses_locate : ∀ {failure} loc, excuses failure → excuses (failure.locate loc)
  regular : ∀ {nodes nodes'}, List.Forall₂ (Node.Like place True) nodes nodes' →
    List.Forall₂ (Node.Like place True) (services.regular nodes) (services'.regular nodes')
  parse : ∀ source, Except.Like fault (List.Forall₂ (Node.Like place True))
    (services.parse source) (services'.parse source)
  group : ∀ {nodes nodes'}, List.Forall₂ (Node.Like place True) nodes nodes' →
    Except.Like fault (List.Forall₂ (Node.Like place True)) (services.group nodes)
      (services'.group nodes')

/-- Which functions of two runs correspond. -/
structure World where
  related : Identity → Identity → Prop
  apart : ∀ {i i' j j'}, related i i' → related j j' → (i = j ↔ i' = j')

namespace World

instance : Preorder World where
  le w v := ∀ i i', w.related i i' → v.related i i'
  le_refl _ _ _ known := known
  le_trans _ _ _ first second i i' known := second i i' (first i i' known)

/-- The world before any function is made. -/
def empty : World where
  related _ _ := False
  apart := nofun

/-- The world of one function. -/
def single (i i' : Identity) : World where
  related j j' := j = i ∧ j' = i'
  apart := by
    rintro _ _ _ _ ⟨rfl, rfl⟩ ⟨rfl, rfl⟩
    simp

/-- The functions of a world and newer ones. -/
def union (w v : World) (n n' : Identity)
    (older : ∀ i i', w.related i i' → i < n ∧ i' < n')
    (newer : ∀ i i', v.related i i' → n ≤ i ∧ n' ≤ i') : World where
  related i i' := w.related i i' ∨ v.related i i'
  apart := by
    rintro i i' j j' (known | known) (known' | known')
    · exact w.apart known known'
    · have before := older i i' known
      have after := newer j j' known'
      exact iff_of_false (before.1.trans_le after.1).ne (before.2.trans_le after.2).ne
    · have after := newer i i' known
      have before := older j j' known'
      exact iff_of_false (before.1.trans_le after.1).ne' (before.2.trans_le after.2).ne'
    · exact v.apart known known'

end World

namespace Likeness

variable (L : Likeness)

/-! ## Values and stores -/

/-- Nodes as data. They may hold loops, since data is never evaluated. -/
def Data : Node → Node → Prop :=
  Node.Like L.place True

/-- Nodes as code. -/
def Code : Node → Node → Prop :=
  Node.Like L.place L.loops

abbrev AllData : List Node → List Node → Prop :=
  List.Forall₂ L.Data

abbrev AllCode : List Node → List Node → Prop :=
  List.Forall₂ L.Code

inductive Expansions : Expansion → Expansion → Prop
  | node {n n' : Node} (like : L.Data n n') : Expansions (.node n) (.node n')
  | nodes {ns ns' : List Node} (like : L.AllData ns ns') : Expansions (.nodes ns) (.nodes ns')

structure Definitions (definition definition' : Definition) : Prop where
  params : definition.params = definition'.params
  body : L.AllCode definition.body definition'.body

inductive Entries : Entry → Entry → Prop
  | native {run run' : NativeMacro}
      (like : ∀ {nodes nodes'}, L.AllData nodes nodes' →
        Except.Like L.fault L.Expansions (run nodes L.services) (run' nodes' L.services')) :
      Entries (.native run) (.native run')
  | defined {definition definition' : Definition} (like : L.Definitions definition definition') :
      Entries (.defined definition) (.defined definition')

/-- The macros of two registries under each name, whatever the order. -/
def Registries (registry registry' : Registry) : Prop :=
  ∀ name, Option.Rel L.Entries (registry.get? name) (registry'.get? name)

structure Closures (closure closure' : Closure) : Prop where
  name : closure.name = closure'.name
  params : closure.params = closure'.params
  body : L.AllCode closure.body closure'.body
  scope : closure.scope = closure'.scope
  kind : closure.kind = closure'.kind

inductive Natives : Native → Native → Prop
  | builtin (b : Builtin) : Natives (.builtin b) (.builtin b)
  | maker (m : NodeMaker) : Natives (.maker m) (.maker m)
  | listMethod (method : ListMethod) (receiver : ListId) :
      Natives (.listMethod method receiver) (.listMethod method receiver)
  | textMethod (method : TextMethod) (receiver : String) :
      Natives (.textMethod method receiver) (.textMethod method receiver)
  | registered (name : String) {entry entry' : Entry} (like : L.Entries entry entry') :
      Natives (.registered name entry) (.registered name entry')

inductive Values (w : World) : Value → Value → Prop
  | null : Values w .null .null
  | bool (b : Bool) : Values w (.bool b) (.bool b)
  | number (x : Float) : Values w (.number x) (.number x)
  | text (s : String) : Values w (.text s) (.text s)
  | node {n n' : Node} (like : L.Data n n') : Values w (.node n) (.node n')
  | list (id : ListId) : Values w (.list id) (.list id)
  | closure {i i' : Identity} (known : w.related i i') {c c' : Closure} (like : L.Closures c c') :
      Values w (.closure i c) (.closure i' c')
  | native {i i' : Identity} (known : w.related i i') {n n' : Native} (like : L.Natives n n') :
      Values w (.native i n) (.native i' n')

abbrev Listed (w : World) : List Value → List Value → Prop :=
  List.Forall₂ (L.Values w)

structure Stores (w : World) (store store' : Store) : Prop where
  lists : store.lists.size = store'.lists.size
  items : ∀ id, L.Listed w (store.items id).toList (store'.items id).toList
  frames : store.frames.size = store'.frames.size
  bound : ∀ id name, Option.Rel (L.Values w) ((store.frame id).lookup name)
    ((store'.frame id).lookup name)
  known : ∀ i i', w.related i i' → i < store.nextIdentity ∧ i' < store'.nextIdentity

variable {L} {w v : World}

theorem Values.mono (le : w ≤ v) {value value' : Value} (like : L.Values w value value') :
    L.Values v value value' := by
  cases like with
  | closure known like => exact .closure (le _ _ known) like
  | native known like => exact .native (le _ _ known) like
  | null | bool | number | text | list => constructor
  | node like => exact .node like

theorem Listed.mono (le : w ≤ v) {values values' : List Value} (like : L.Listed w values values') :
    L.Listed v values values' :=
  List.Forall₂.imp (fun _ _ => Values.mono le) like

namespace Stores

variable {store store' : Store} (stores : L.Stores w store store')

include stores

theorem nearest?_eq (scope : Scope) (name : String) :
    store.nearest? scope name = store'.nearest? scope name := by
  have binds : ∀ id, store.bindsIn id name = store'.bindsIn id name :=
    fun id => optionRel_isSome (stores.bound id name)
  simp only [Store.nearest?, binds]

theorem lookup (scope : Scope) (name : String) :
    Option.Rel (L.Values w) (store.lookup scope name) (store'.lookup scope name) := by
  rw [Store.lookup_eq, Store.lookup_eq, stores.nearest?_eq]
  cases store'.nearest? scope name with
  | none => exact .none
  | some id => exact stores.bound id name

theorem newList {items items' : Array Value} (like : L.Listed w items.toList items'.toList) :
    L.Stores w (store.newList items).2 (store'.newList items').2 where
  lists := by simp [Store.newList, stores.lists]
  items id := by
    have others := stores.items id
    have sizes := stores.lists
    simp only [Store.items, Store.newList, Array.getD_eq_getD_getElem?, Array.getElem?_push,
      sizes] at others ⊢
    split
    · exact like
    · exact others
  frames := stores.frames
  bound := stores.bound
  known := stores.known

theorem modifyList (id : ListId) {change change' : Array Value → Array Value}
    (changes : ∀ {items items' : Array Value}, L.Listed w items.toList items'.toList →
      L.Listed w (change items).toList (change' items').toList) :
    L.Stores w (store.modifyList id change) (store'.modifyList id change') where
  lists := by simp [Store.modifyList, stores.lists]
  items other := by
    have sizes := stores.lists
    have like := stores.items other
    simp only [Store.items, Store.modifyList, Array.getD_eq_getD_getElem?,
      Array.getElem?_modify] at like ⊢
    by_cases there : other < store.lists.size
    · have there' : other < store'.lists.size := sizes ▸ there
      simp only [there, there', Array.getElem?_eq_getElem, Option.getD_some] at like ⊢
      split
      · exact changes like
      · exact like
    · have there' : ¬other < store'.lists.size := sizes ▸ there
      simp [there, there', Likeness.Listed]
  frames := stores.frames
  bound := stores.bound
  known := stores.known

theorem newFrame : L.Stores w store.newFrame.2 store'.newFrame.2 where
  lists := stores.lists
  items := stores.items
  frames := by simp [Store.newFrame, stores.frames]
  bound id name := by
    rw [Store.frame_newFrame, Store.frame_newFrame]
    exact stores.bound id name
  known := stores.known

theorem bind (id : FrameId) (name : String) {value value' : Value}
    (like : L.Values w value value') :
    L.Stores w (store.bind id name value) (store'.bind id name value') where
  lists := stores.lists
  items := stores.items
  frames := by simp [stores.frames]
  bound other key := by
    by_cases there : id < store.frames.size
    · rw [store.lookup_frame_bind there, store'.lookup_frame_bind (stores.frames ▸ there)]
      split
      · exact .some like
      · exact stores.bound other key
    · rw [Store.bind_absent there, Store.bind_absent (stores.frames ▸ there)]
      exact stores.bound other key
  known := stores.known

theorem assign (scope : Scope) (name : String) {value value' : Value}
    (like : L.Values w value value') :
    L.Stores w (store.assign scope name value) (store'.assign scope name value') := by
  rw [Store.assign_eq, Store.assign_eq, Store.assigned, Store.assigned, stores.nearest?_eq]
  exact stores.bind _ name like

theorem mono (le : w ≤ v)
    (known : ∀ i i', v.related i i' → i < store.nextIdentity ∧ i' < store'.nextIdentity) :
    L.Stores v store store' where
  lists := stores.lists
  items id := (stores.items id).mono le
  frames := stores.frames
  bound id name := optionRel_imp (fun _ _ => Values.mono le) (stores.bound id name)
  known := known

theorem textWithin?_eq (depth : Nat) {value value' : Value} (like : L.Values w value value') :
    value.textWithin? store depth = value'.textWithin? store' depth := by
  induction depth generalizing value value' with
  | zero =>
      cases like with
      | node like => exact congrArg some like.pretty_eq
      | closure _ like => simp only [Value.textWithin?, like.name]
      | native _ like => cases like <;> rfl
      | _ => rfl
  | succ depth ih =>
      cases like with
      | node like => exact congrArg some like.pretty_eq
      | closure _ like => simp only [Value.textWithin?, like.name]
      | native _ like => cases like <;> rfl
      | list id =>
          simp only [Value.textWithin?]
          rw [mapM_eq_of_forall₂ (fun item item' like => ?_) (stores.items id)]
          have deeper := ih like
          cases like with
          | null => rfl
          | _ => exact deeper
      | _ => rfl

theorem text?_eq {value value' : Value} (like : L.Values w value value') :
    value.text? store = value'.text? store' := by
  rw [Value.text?, Value.text?, stores.lists, stores.textWithin?_eq _ like]

end Stores

end Likeness

end TreeMacros
