/-! # Fields

Values under names, in the order in which the names came. Setting a name that is there replaces
its value and keeps its place.
-/

namespace TreeMacros

/-- Values under names. -/
abbrev Fields (α : Type) := List (String × α)

namespace Fields

/-- The names, in order. -/
def names {α : Type} (fields : Fields α) : List String :=
  fields.map (·.1)

/-- Set a field: where the name already stands, or else at the end. -/
def set {α : Type} (name : String) (value : α) : Fields α → Fields α
  | [] => [(name, value)]
  | (key, old) :: rest =>
    if key == name then (name, value) :: rest else (key, old) :: set name value rest

/-- The field that was set can be looked up, and no other field has changed. -/
theorem lookup_set {α : Type} (name key : String) (value : α) (fields : Fields α) :
    (set name value fields).lookup key = if key = name then some value else fields.lookup key := by
  induction fields with
  | nil => grind [set]
  | cons head rest ih =>
    obtain ⟨first, old⟩ := head
    by_cases h : first = name <;> grind [set]

/-- A name that is new comes last; else the names stay as they are. -/
theorem names_set {α : Type} (name : String) (value : α) (fields : Fields α) :
    (set name value fields).names =
      if name ∈ fields.names then fields.names else fields.names ++ [name] := by
  induction fields with
  | nil => simp [set, names]
  | cons head rest ih =>
    obtain ⟨first, old⟩ := head
    simp only [names] at ih
    by_cases h : first = name
    · simp [set, names, h]
    · have h' : name ≠ first := fun equal => h equal.symm
      by_cases mem : name ∈ rest.map (·.1) <;> simp_all [set, names]

/-- Setting a field keeps names apart. -/
theorem nodup_names_set {α : Type} {fields : Fields α} (distinct : fields.names.Nodup)
    (name : String) (value : α) : (set name value fields).names.Nodup := by
  rw [names_set]
  split
  · exact distinct
  · next fresh =>
    refine List.nodup_append.2 ⟨distinct, by simp, fun a mem b last => ?_⟩
    obtain rfl := List.mem_singleton.1 last
    exact fun equal => fresh (equal ▸ mem)

end Fields

end TreeMacros
