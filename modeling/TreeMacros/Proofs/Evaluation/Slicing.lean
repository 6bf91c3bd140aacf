import TreeMacros.Proofs.Decimal.Truncation
import TreeMacros.Proofs.Evaluation.Mutation
import TreeMacros.Proofs.Evaluation.Template

/-! # Slices

A slice of a list or a text is the part between two places, which are found from any two values
and are never outside of it. So the slice up to a number and the slice from it on are together what
was sliced, whatever the number is. What is sliced stays as it is.
-/

namespace TreeMacros

/-- What a list or a text holds: its items, or its characters as texts of their own. -/
inductive Value.Holds (store : Store) : Value → List Value → Prop where
  | list {id : ListId} (there : id < store.lists.size) :
    Holds store (.list id) (store.items id).toList
  | text (s : String) :
    Holds store (.text s) (s.toList.map fun c => .text (String.singleton c))

/-- Read a member of a value and call it. A member that is missing is null. -/
def Value.callMember (machine : Machine) (level : Level) (receiver : Value) (name : String)
    (arguments : List Value) : Eval Value := do
  ((← receiver.member? name).getD .null).call machine level arguments

/-- The place among `length` items that a bound stands for. What is no number stands for
    `absent`. -/
def boundPlace (bound : Option Value) (length absent : Nat) : Nat :=
  (bound.bind Value.number?).elim absent (Binary.place · length)

/-- The part between two places, empty if the first one is not before the second. -/
def IsBetween {α : Type} (start stop : Nat) (elements part : List α) : Prop :=
  if start < stop then
    ∃ before behind, elements = before ++ part ++ behind ∧
      before.length = start ∧ (before ++ part).length = stop
  else part = []

/-! ## Bounds -/

section Bounds

variable (bound : Option Value) (length : Nat)

theorem sliceBound_eq (absent : Nat) :
    sliceBound bound length absent = boundPlace bound length absent := by
  unfold sliceBound boundPlace
  cases bound.bind Value.number? with
  | none => rfl
  | some x => exact (Binary.place_eq x length).symm

theorem boundPlace_le {absent : Nat} (inside : absent ≤ length) :
    boundPlace bound length absent ≤ length := by
  unfold boundPlace
  cases bound.bind Value.number? with
  | none => exact inside
  | some x => exact Binary.place_le x length

end Bounds

section Lists

variable {α β : Type} (elements : List α)

theorem isBetween_between {start stop : Nat} (inside : stop ≤ elements.length) :
    IsBetween start stop elements (between start stop elements) := by
  unfold IsBetween between
  split
  · next less =>
      refine ⟨elements.take start, elements.drop stop, ?_, ?_, ?_⟩
      · have front := List.take_append_drop start (elements.take stop)
        rw [List.take_take, Nat.min_eq_left (Nat.le_of_lt less)] at front
        rw [front, List.take_append_drop]
      · rw [List.length_take]
        omega
      · rw [List.length_append, List.length_take, List.length_drop, List.length_take]
        omega
  · next notLess =>
      rw [List.drop_eq_nil_iff, List.length_take]
      omega

theorem sliceOf_map (f : α → β) (arguments : List Value) :
    sliceOf (elements.map f) arguments = (sliceOf elements arguments).map f := by
  simp only [sliceOf, between, List.length_map, List.map_take, List.map_drop]

/-- The slice up to a number and the slice from it on are the whole. -/
theorem sliceOf_append (k : Float) :
    sliceOf elements [.number 0, .number k] ++ sliceOf elements [.number k] = elements := by
  have front : sliceOf elements [.number 0, .number k] =
      elements.take (Binary.place k elements.length) := by
    simp only [sliceOf, sliceBound_eq]
    show between (Binary.place 0 _) (Binary.place k _) elements = _
    rw [Binary.place_zero]
    rfl
  have back : sliceOf elements [.number k] = elements.drop (Binary.place k elements.length) := by
    simp only [sliceOf, sliceBound_eq]
    show between (Binary.place k _) elements.length elements = _
    rw [between, List.take_length]
  rw [front, back, List.take_append_drop]

end Lists

/-! ## Calls -/

section Calls

variable {store after : Store} {receiver : Value} {elements : List Value}

/-- Where no list is changed, all that holds elements still holds them. -/
theorem Value.Holds.mono (holds : receiver.Holds store elements)
    (kept : store.KeepsBut none after) : receiver.Holds after elements := by
  cases holds with
  | list there =>
      rw [← kept.items _ there nofun]
      exact .list (Nat.lt_of_lt_of_le there kept.size)
  | text s => exact .text s

theorem Value.Holds.member?_length (holds : receiver.Holds store elements) :
    receiver.member? "length" store =
      .ok (some (.number (Float.ofNat elements.length))) store := by
  cases holds with
  | list there => rfl
  | text s =>
      rw [List.length_map, String.length_toList]
      rfl

variable (machine : Machine) (level : Level) (arguments : List Value)

/-- A slice is a new value of the same type. -/
theorem Value.Holds.callMember_slice (holds : receiver.Holds store elements) :
    ∃ result after,
      receiver.callMember machine level "slice" arguments store = .ok result after ∧
      result.typeName = receiver.typeName ∧ result.Holds after (sliceOf elements arguments) ∧
      store.KeepsBut none after := by
  have bound (native : Native) : store.KeepsBut none (store.newIdentity).2 :=
    Eval.KeepsBut.newNative native store
  cases holds with
  | @list id there =>
      let part := (sliceOf (store.items id).toList arguments).toArray
      let read := (store.newIdentity).2
      refine ⟨.list read.lists.size, (read.newList part).2, rfl, rfl, ?_,
        (bound (.listMethod .slice id)).trans (.newList read part)⟩
      have items : ((read.newList part).2.items read.lists.size).toList =
          sliceOf (store.items id).toList arguments := by
        rw [read.items_newList part]
      rw [← items]
      exact .list (by simp [Store.newList])
  | text s =>
      let part := String.ofList (sliceOf s.toList arguments)
      refine ⟨.text part, (store.newIdentity).2, rfl, rfl, ?_, bound (.textMethod .slice s)⟩
      rw [sliceOf_map, ← String.toList_ofList (l := sliceOf s.toList arguments)]
      exact .text part

end Calls

/-- The length of a list or a text counts its elements. Its slice between any two values is of the
    same type and holds the part between the places that these stand for, which are never outside.
    Nothing that was there is changed, so what was sliced holds the same elements as before. The
    slice up to any number and the slice from it on are together all elements. -/
theorem slice_splits (machine : Machine) (level : Level) {store : Store} {receiver : Value}
    {elements : List Value} (holds : receiver.Holds store elements) :
    receiver.member? "length" store =
        .ok (some (.number (Float.ofNat elements.length))) store ∧
      (∀ arguments,
        let start := boundPlace arguments[0]? elements.length 0
        let stop := boundPlace arguments[1]? elements.length elements.length
        start ≤ elements.length ∧ stop ≤ elements.length ∧
        ∃ result part after,
          receiver.callMember machine level "slice" arguments store = .ok result after ∧
          result.typeName = receiver.typeName ∧ result.Holds after part ∧
          IsBetween start stop elements part ∧
          store.KeepsBut none after ∧ receiver.Holds after elements) ∧
      ∀ k : Float, ∃ left right front back middle after,
        receiver.callMember machine level "slice" [.number 0, .number k] store =
          .ok left middle ∧
        receiver.callMember machine level "slice" [.number k] middle = .ok right after ∧
        left.Holds after front ∧ right.Holds after back ∧ front ++ back = elements := by
  refine ⟨holds.member?_length, fun arguments => ?_, fun k => ?_⟩
  · have startInside := boundPlace_le arguments[0]? elements.length (Nat.zero_le _)
    have stopInside := boundPlace_le arguments[1]? elements.length (Nat.le_refl _)
    obtain ⟨result, after, returned, type, part, kept⟩ :=
      holds.callMember_slice machine level arguments
    refine ⟨startInside, stopInside, result, _, after, returned, type, part, ?_, kept,
      holds.mono kept⟩
    rw [sliceOf, sliceBound_eq, sliceBound_eq]
    exact isBetween_between elements stopInside
  · obtain ⟨left, middle, first, -, front, kept⟩ :=
      holds.callMember_slice machine level [.number 0, .number k]
    obtain ⟨right, after, second, -, back, kept'⟩ :=
      (holds.mono kept).callMember_slice machine level [.number k]
    exact ⟨left, right, _, _, middle, after, first, second, front.mono kept', back,
      sliceOf_append elements k⟩

/-- Three characters of one, two and four bytes, split before the last one. -/
theorem slice_splits_text :
    let receiver : Value := .text "aé😀"
    let elements : List Value := [.text "a", .text "é", .text "😀"]
    receiver.Holds {} elements ∧
      ∃ left right front back middle after,
        receiver.callMember {} (Machine.top {}) "slice" [.number 0, .number (-1.5)] {} =
          .ok left middle ∧
        receiver.callMember {} (Machine.top {}) "slice" [.number (-1.5)] middle =
          .ok right after ∧
        left.Holds after front ∧ right.Holds after back ∧ front ++ back = elements := by
  intro receiver elements
  have holds : receiver.Holds {} elements := .text "aé😀"
  exact ⟨holds, (slice_splits {} (Machine.top {}) holds).2.2 (-1.5)⟩

end TreeMacros
