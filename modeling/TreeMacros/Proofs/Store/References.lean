import TreeMacros.Proofs.Store.Frames

/-! # References to lists

Values refer to lists, and the items of lists and the variables of frames are values, so that lists
can be shared, nested, or inside themselves. In a store that is closed, nothing refers to a list
that has yet to be made. So a list that is made is known only to the one who made it, and a change
of it is not seen anywhere else.
-/

namespace TreeMacros

namespace Value

/-- The list that a value refers to: the list that it is, or the one that it is a method of. -/
def target? : Value → Option ListId
  | list id => some id
  | native _ (.listMethod _ receiver) => some receiver
  | _ => none

/-- A value that refers to a list refers to one of the store. -/
def IsWithin (store : Store) (value : Value) : Prop :=
  ∀ id, value.target? = some id → id < store.lists.size

end Value

namespace Store

/-- All items of lists and all variables refer to lists that there are. -/
structure IsClosed (store : Store) : Prop where
  items : ∀ id, ∀ item ∈ store.items id, item.IsWithin store
  frames : ∀ frame name value, (store.frame frame).lookup name = some value →
    value.IsWithin store

/-- A list that was made after an earlier store, and to which no variable and no list of that
    time refers. -/
structure IsNew (after before : Store) (id : ListId) : Prop where
  made : before.lists.size ≤ id
  there : id < after.lists.size
  items : ∀ old < before.lists.size, ∀ item ∈ after.items old, item.target? ≠ some id
  frames : ∀ frame < before.frames.size, ∀ name value,
    (after.frame frame).lookup name = some value → value.target? ≠ some id

/-! ## Changes -/

/-- All lists and frames stay as they are, up to the items of at most one list. -/
structure KeepsBut (changed : Option ListId) (before after : Store) : Prop where
  size : before.lists.size ≤ after.lists.size
  items : ∀ id < before.lists.size, changed ≠ some id → after.items id = before.items id
  frames : after.frames = before.frames

namespace KeepsBut

variable {changed : Option ListId} {before middle after : Store}

theorem refl (store : Store) : KeepsBut changed store store :=
  ⟨Nat.le_refl _, fun _ _ _ => rfl, rfl⟩

theorem trans (first : KeepsBut changed before middle) (second : KeepsBut changed middle after) :
    KeepsBut changed before after := by
  refine ⟨Nat.le_trans first.size second.size, ?_, second.frames.trans first.frames⟩
  intro id there other
  have still : id < middle.lists.size := Nat.lt_of_lt_of_le there first.size
  rw [second.items id still other, first.items id there other]

theorem newList (store : Store) (items : Array Value) :
    KeepsBut changed store (store.newList items).2 := by
  refine ⟨?_, ?_, rfl⟩
  · simp [Store.newList]
  · intro id there _
    simp [Store.newList, Store.items, Array.getElem?_push, Nat.ne_of_lt there]

theorem modifyList (store : Store) (id : ListId) (change : Array Value → Array Value) :
    KeepsBut (some id) store (store.modifyList id change) := by
  refine ⟨?_, ?_, rfl⟩
  · simp [Store.modifyList]
  · intro other _ apart
    have ne : id ≠ other := fun same => apart (congrArg some same)
    simp [Store.modifyList, Store.items, Array.getElem?_modify, ne]

/-- Where no list changed, what has been made since is not referred to by what was there. -/
theorem isNew (kept : KeepsBut none before after) (closed : before.IsClosed) {id : ListId}
    (made : before.lists.size ≤ id) (there : id < after.lists.size) : after.IsNew before id := by
  refine ⟨made, there, ?_, ?_⟩
  · intro old known item mem refers
    rw [kept.items old known nofun] at mem
    exact Nat.not_le_of_lt (closed.items old item mem id refers) made
  · intro frame _ name value bound refers
    rw [Store.frame, kept.frames] at bound
    exact Nat.not_le_of_lt (closed.frames frame name value bound id refers) made

end KeepsBut

end Store

end TreeMacros
