import TreeMacros.Proofs.Store.Frames
import TreeMacros.Proofs.Value.Text

/-! # A store on top of another

A store can be put on top of another one, its base. References into it then count from where the
base ends, and nothing in it refers to the base. What is done on top of the base leaves the base as
it is, and does to the store above it what it does to this store alone.
-/

namespace TreeMacros

/-! ## On top of a base -/

section Above

variable (base : Store)

def Scope.above (scope : Scope) : Scope :=
  ⟨base.frames.size + scope.frame, scope.outer.map (base.frames.size + ·)⟩

def Closure.above (closure : Closure) : Closure :=
  { closure with scope := closure.scope.above base }

/-- Only a method of a list refers to the store. -/
def Native.above : Native → Native
  | .listMethod method receiver => .listMethod method (base.lists.size + receiver)
  | native => native

def Value.above : Value → Value
  | .list id => .list (base.lists.size + id)
  | .closure identity c => .closure (base.nextIdentity + identity) (c.above base)
  | .native identity n => .native (base.nextIdentity + identity) (n.above base)
  | value => value

end Above

/-- Change the values of fields. -/
def Fields.mapValues {α β : Type} (change : α → β) (fields : Fields α) : Fields β :=
  fields.map fun (name, value) => (name, change value)

/-- A store on top of a base. -/
def Store.above (store base : Store) : Store where
  lists := base.lists ++ store.lists.map (·.map (Value.above base))
  frames := base.frames ++ store.frames.map (Fields.mapValues (Value.above base))
  nextIdentity := base.nextIdentity + store.nextIdentity
  printed := base.printed ++ store.printed
  depth := base.depth

namespace Fields

variable {α β : Type} (change : α → β)

theorem lookup_mapValues (name : String) (fields : Fields α) :
    (fields.mapValues change).lookup name = (fields.lookup name).map change := by
  induction fields with
  | nil => rfl
  | cons field rest ih =>
      obtain ⟨key, value⟩ := field
      simp only [mapValues, List.map_cons, List.lookup_cons] at ih ⊢
      cases name == key with
      | false => exact ih
      | true => rfl

theorem mapValues_set (name : String) (value : α) (fields : Fields α) :
    (set name value fields).mapValues change =
      set name (change value) (fields.mapValues change) := by
  induction fields with
  | nil => rfl
  | cons field rest ih =>
      simp only [mapValues, set, List.map_cons] at ih ⊢
      cases field.1 == name with
      | false => exact congrArg _ ih
      | true => rfl

end Fields

/-! ## What the store does -/

section Arrays

variable {α : Type} (below items : Array α) (place : Nat) {move : α → α}

theorem getD_append_map (absent : α) (fixed : move absent = absent) :
    (below ++ items.map move).getD (below.size + place) absent =
      move (items.getD place absent) := by
  simp only [Array.getD_eq_getD_getElem?, Array.getElem?_append_right (Nat.le_add_right _ _),
    Nat.add_sub_cancel_left, Array.getElem?_map]
  cases items[place]? with
  | none => exact fixed.symm
  | some item => rfl

theorem modify_append_map {change moved : α → α}
    (commutes : ∀ a, moved (move a) = move (change a)) :
    (below ++ items.map move).modify (below.size + place) moved =
      below ++ (items.modify place change).map move := by
  apply Array.ext_getElem?
  intro i
  simp only [Array.getElem?_modify, Array.getElem?_append, Array.getElem?_map]
  by_cases low : i < below.size
  · have apart : below.size + place ≠ i := by omega
    simp [low, apart]
  · by_cases here : below.size + place = i
    · subst here
      simp [low, Option.map_map, Function.comp_def, commutes]
    · have apart : place ≠ i - below.size := by omega
      simp [low, here, apart]

end Arrays

namespace Store

variable (store base : Store)

theorem empty_above : ({} : Store).above base = base := by
  simp [above]

theorem items_above (id : ListId) :
    (store.above base).items (base.lists.size + id) = (store.items id).map (Value.above base) :=
  getD_append_map _ _ _ _ Array.map_empty

theorem frame_above (id : FrameId) :
    (store.above base).frame (base.frames.size + id) =
      (store.frame id).mapValues (Value.above base) :=
  getD_append_map _ _ _ _ rfl

theorem newList_above (items : Array Value) :
    (store.above base).newList (items.map (Value.above base)) =
      (base.lists.size + (store.newList items).1, (store.newList items).2.above base) := by
  simp [newList, above]

theorem modifyList_above (id : ListId) {change moved : Array Value → Array Value}
    (commutes : ∀ items, moved (items.map (Value.above base)) =
      (change items).map (Value.above base)) :
    (store.above base).modifyList (base.lists.size + id) moved =
      (store.modifyList id change).above base := by
  simp only [modifyList, above]
  rw [modify_append_map base.lists store.lists id commutes]

theorem newFrame_above :
    (store.above base).newFrame =
      (base.frames.size + store.newFrame.1, store.newFrame.2.above base) := by
  simp [newFrame, above, Fields.mapValues]

theorem newIdentity_above :
    (store.above base).newIdentity =
      (base.nextIdentity + store.newIdentity.1, store.newIdentity.2.above base) :=
  rfl

theorem print_above (line : String) :
    (store.above base).print line = (store.print line).above base := by
  simp [print, above]

theorem bind_above (id : FrameId) (name : String) (value : Value) :
    (store.above base).bind (base.frames.size + id) name (value.above base) =
      (store.bind id name value).above base := by
  simp only [Store.bind, above]
  rw [modify_append_map base.frames store.frames id fun frame =>
    (Fields.mapValues_set (Value.above base) name value frame).symm]

theorem lookup_frame_above (id : FrameId) (name : String) :
    ((store.above base).frame (base.frames.size + id)).lookup name =
      ((store.frame id).lookup name).map (Value.above base) := by
  rw [frame_above, Fields.lookup_mapValues]

variable (scope : Scope) (name : String)

theorem frames_scope_above :
    (scope.above base).frames = scope.frames.map (base.frames.size + ·) :=
  rfl

theorem nearest?_above :
    (store.above base).nearest? (scope.above base) name =
      (store.nearest? scope name).map (base.frames.size + ·) := by
  simp only [nearest?, frames_scope_above, List.find?_map, Function.comp_def, bindsIn,
    lookup_frame_above, Option.isSome_map]

theorem lookup_above :
    (store.above base).lookup (scope.above base) name =
      (store.lookup scope name).map (Value.above base) := by
  rw [lookup_eq, lookup_eq, nearest?_above]
  cases store.nearest? scope name with
  | none => rfl
  | some id => exact lookup_frame_above store base id name

theorem define_above (value : Value) :
    (store.above base).define (scope.above base) name (value.above base) =
      (store.define scope name value).above base :=
  bind_above store base scope.frame name value

theorem assign_above (value : Value) :
    (store.above base).assign (scope.above base) name (value.above base) =
      (store.assign scope name value).above base := by
  have assigned : (store.above base).assigned (scope.above base) name =
      base.frames.size + store.assigned scope name := by
    rw [Store.assigned, nearest?_above, Store.assigned]
    cases store.nearest? scope name <;> rfl
  rw [assign_eq, assign_eq, assigned, bind_above]

end Store

/-! ## Values -/

namespace Value

variable (base : Store) (value : Value)

@[simp] theorem null_above : null.above base = null :=
  rfl

@[simp] theorem bool_above (b : Bool) : (bool b).above base = bool b :=
  rfl

@[simp] theorem number_above (x : Float) : (number x).above base = number x :=
  rfl

@[simp] theorem text_above (s : String) : (text s).above base = text s :=
  rfl

@[simp] theorem node_above (n : Node) : (node n).above base = node n :=
  rfl

@[simp] theorem list_above (id : ListId) : (list id).above base = list (base.lists.size + id) :=
  rfl

@[simp] theorem typeName_above : (value.above base).typeName = value.typeName := by
  cases value <;> rfl

@[simp] theorem isTruthy_above : (value.above base).isTruthy = value.isTruthy := by
  cases value <;> rfl

@[simp] theorem isCallable_above : (value.above base).isCallable = value.isCallable := by
  cases value <;> rfl

@[simp] theorem number?_above : (value.above base).number? = value.number? := by
  cases value <;> rfl

@[simp] theorem node?_above : (value.above base).node? = value.node? := by
  cases value <;> rfl

@[simp] theorem same_above (other : Value) :
    (value.above base).same (other.above base) = value.same other := by
  cases value <;> cases other <;> simp [above, same]

theorem textWithin?_above (store : Store) (depth : Nat) :
    (value.above base).textWithin? (store.above base) depth = value.textWithin? store depth := by
  induction depth generalizing value with
  | zero =>
      cases value with
      | native _ n => cases n <;> rfl
      | _ => rfl
  | succ depth ih =>
      cases value with
      | list id =>
          simp only [above, textWithin?, Store.items_above]
          rw [Array.toList_map, List.mapM_map]
          congr 2
          funext item
          cases item with
          | null => rfl
          | _ => exact ih _
      | native _ n => cases n <;> rfl
      | _ => rfl

theorem text?_above (store : Store) :
    (value.above base).text? (store.above base) = value.text? store := by
  have more : (store.above base).lists.size = base.lists.size + store.lists.size := by
    simp [Store.above]
  rw [text?, textWithin?_above, textWithin?_eq_text? store (by omega)]

end Value

end TreeMacros
