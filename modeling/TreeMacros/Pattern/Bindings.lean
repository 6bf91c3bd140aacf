import TreeMacros.Datum

/-! # Bindings

The names that a match has bound, each once and in the order of their characters. Binding a name
again replaces what it was bound to.
-/

namespace TreeMacros

/-- Names with what they are bound to, sorted by name. -/
abbrev Bindings := List (String × Datum)

namespace Bindings

/-- Bind a name. -/
def insert (bindings : Bindings) (name : String) (value : Datum) : Bindings :=
  match bindings with
  | [] => [(name, value)]
  | (key, old) :: rest =>
    if name < key then (name, value) :: (key, old) :: rest
    else if name == key then (name, value) :: rest
    else (key, old) :: insert rest name value

/-- Bind the names of a list, one after the other. -/
def ofList (pairs : List (String × Datum)) : Bindings :=
  pairs.foldl (fun bindings pair => insert bindings pair.1 pair.2) []

/-- Bind the names of some bindings over others. -/
def override (bindings changes : Bindings) : Bindings :=
  changes.foldl (fun bindings pair => insert bindings pair.1 pair.2) bindings

/-- Each name stands once, and the names are in order. -/
def Sorted (bindings : Bindings) : Prop :=
  bindings.Pairwise (·.1 < ·.1)

/-! ## One name -/

/-- The name that was bound can be looked up, and no other name has changed. -/
theorem lookup_insert (bindings : Bindings) (name key : String) (value : Datum) :
    (bindings.insert name value).lookup key =
      if key = name then some value else bindings.lookup key := by
  induction bindings with
  | nil => grind [insert]
  | cons head rest ih =>
    obtain ⟨first, old⟩ := head
    grind [insert]

theorem mem_insert {bindings : Bindings} {name : String} {value : Datum}
    {pair : String × Datum} (mem : pair ∈ bindings.insert name value) :
    pair = (name, value) ∨ pair ∈ bindings := by
  induction bindings with
  | nil => grind [insert]
  | cons head rest ih =>
    obtain ⟨first, old⟩ := head
    grind [insert]

theorem sorted_insert {bindings : Bindings} (sorted : bindings.Sorted) (name : String)
    (value : Datum) : (bindings.insert name value).Sorted := by
  induction bindings with
  | nil => exact List.pairwise_singleton _ _
  | cons head rest ih =>
    obtain ⟨first, old⟩ := head
    obtain ⟨below, sorted⟩ := List.pairwise_cons.1 sorted
    have above : ∀ pair ∈ insert rest name value, pair = (name, value) ∨ first < pair.1 :=
      fun pair mem => (mem_insert mem).imp_right (below pair)
    grind [insert, Sorted, List.pairwise_cons]

/-- Binding a name once more replaces what it was bound to. -/
theorem insert_insert_same (bindings : Bindings) (name : String) (old value : Datum) :
    (bindings.insert name old).insert name value = bindings.insert name value := by
  induction bindings with
  | nil => grind [insert]
  | cons head rest ih =>
    obtain ⟨first, old⟩ := head
    grind [insert]

/-- Two names can be bound in either order. -/
theorem insert_comm (bindings : Bindings) {name other : String} (apart : name ≠ other)
    (value value' : Datum) :
    (bindings.insert name value).insert other value' =
      (bindings.insert other value').insert name value := by
  induction bindings with
  | nil => grind [insert]
  | cons head rest ih =>
    obtain ⟨first, old⟩ := head
    grind [insert]

/-! ## Several names -/

/-- Names that are bound over others are looked up first. -/
theorem lookup_override (bindings : Bindings) {changes : Bindings} (sorted : changes.Sorted)
    (key : String) :
    (bindings.override changes).lookup key = (changes.lookup key).or (bindings.lookup key) := by
  induction changes generalizing bindings with
  | nil => rfl
  | cons head rest ih =>
    obtain ⟨below, sorted⟩ := List.pairwise_cons.1 sorted
    rw [override, List.foldl_cons, ← override, ih _ sorted, lookup_insert]
    by_cases same : key = head.1
    · have fresh : rest.lookup key = none :=
        List.lookup_eq_none_iff.2 fun pair mem => by grind
      grind
    · grind

theorem mem_override {bindings changes : Bindings} {pair : String × Datum}
    (mem : pair ∈ bindings.override changes) : pair ∈ changes ∨ pair ∈ bindings := by
  induction changes generalizing bindings with
  | nil => exact .inr mem
  | cons head rest ih =>
    rcases ih mem with mem | mem
    · exact .inl (List.mem_cons_of_mem _ mem)
    · rcases mem_insert mem with rfl | mem
      · exact .inl List.mem_cons_self
      · exact .inr mem

theorem sorted_override {bindings : Bindings} (sorted : bindings.Sorted) (changes : Bindings) :
    (bindings.override changes).Sorted := by
  induction changes generalizing bindings with
  | nil => exact sorted
  | cons head rest ih => exact ih (sorted_insert sorted _ _)

/-- A name can be bound before others that are not the same. -/
theorem override_insert_left (bindings : Bindings) {changes : Bindings} {name : String}
    (fresh : ∀ pair ∈ changes, name ≠ pair.1) (value : Datum) :
    (bindings.insert name value).override changes = (bindings.override changes).insert name value := by
  induction changes generalizing bindings with
  | nil => rfl
  | cons head rest ih =>
    obtain ⟨apart, fresh⟩ := List.forall_mem_cons.1 fresh
    rw [override, List.foldl_cons, insert_comm _ apart, ← override, ih _ fresh]
    rfl

theorem override_insert (bindings : Bindings) {changes : Bindings} (sorted : changes.Sorted)
    (name : String) (value : Datum) :
    bindings.override (changes.insert name value) = (bindings.override changes).insert name value := by
  induction changes generalizing bindings with
  | nil => rfl
  | cons head rest ih =>
    obtain ⟨first, old⟩ := head
    obtain ⟨below, sorted⟩ := List.pairwise_cons.1 sorted
    simp only [insert]
    split
    · next before =>
      have fresh : ∀ pair ∈ (first, old) :: rest, name ≠ pair.1 := by grind
      exact override_insert_left bindings fresh value
    · split
      · next same =>
        obtain rfl := eq_of_beq same
        have fresh : ∀ pair ∈ rest, name ≠ pair.1 := by grind
        change (bindings.insert name value).override rest =
          ((bindings.insert name old).override rest).insert name value
        rw [← override_insert_left _ fresh, insert_insert_same]
      · exact ih _ sorted

/-- To bind names over others and more names over these is to bind the second over the first, and
    both over the others. -/
theorem override_override (bindings : Bindings) {first : Bindings} (sorted : first.Sorted)
    (second : Bindings) :
    (bindings.override first).override second = bindings.override (first.override second) := by
  induction second generalizing first with
  | nil => rfl
  | cons head rest ih =>
    have inserted := ih (sorted_insert sorted head.1 head.2)
    rw [override_insert bindings sorted] at inserted
    exact inserted

end Bindings

end TreeMacros
