import TreeMacros.Json

/-! # Plain documents

The documents of the wire hold no floats, and no number outside a word of 64 bits. Such a document
is proper within a limit if and only if its arrays and objects are nested no deeper than that.
-/

namespace TreeMacros.Json

mutual

/-- Whether a document is built from texts, truth values, nulls and words of 64 bits. -/
def IsPlain : Json → Prop
  | int word => -Nat.pow 2 63 ≤ word ∧ word < Nat.pow 2 64
  | float _ | void => False
  | array items => ArePlain items
  | object fields => ArePlainFields fields
  | null | bool _ | string _ => True

def ArePlain : List Json → Prop
  | [] => True
  | item :: rest => item.IsPlain ∧ ArePlain rest

def ArePlainFields : List (String × Json) → Prop
  | [] => True
  | (_, value) :: rest => value.IsPlain ∧ ArePlainFields rest

end

theorem arePlain_map {α : Type} (write : α → Json) (plain : ∀ a, (write a).IsPlain)
    (list : List α) : ArePlain (list.map write) := by
  induction list with
  | nil => trivial
  | cons first rest ih => exact ⟨plain first, ih⟩

mutual

/-- How many arrays and objects are nested in each other. -/
def nesting : Json → Nat
  | array items => nestingAll items + 1
  | object fields => nestingFields fields + 1
  | _ => 0

def nestingAll : List Json → Nat
  | [] => 0
  | item :: rest => max item.nesting (nestingAll rest)

def nestingFields : List (String × Json) → Nat
  | [] => 0
  | (_, value) :: rest => max value.nesting (nestingFields rest)

end

mutual

theorem isProper_eq (json : Json) (plain : json.IsPlain) (limit : Nat) :
    json.isProper limit = decide (json.nesting ≤ limit) := by
  cases json with
  | null | bool _ | int _ | string _ => simp [isProper, nesting]
  | float _ | void => exact absurd plain id
  | array items =>
      cases limit with
      | zero => simp [isProper, nesting]
      | succ limit => simp [isProper, nesting, areProper_eq items plain limit]
  | object fields =>
      cases limit with
      | zero => simp [isProper, nesting]
      | succ limit => simp [isProper, nesting, areProperFields_eq fields plain limit]
termination_by sizeOf json

theorem areProper_eq (items : List Json) (plain : ArePlain items) (limit : Nat) :
    areProper limit items = decide (nestingAll items ≤ limit) := by
  cases items with
  | nil => simp [areProper, nestingAll]
  | cons item rest =>
      rw [areProper, isProper_eq item plain.1 limit, areProper_eq rest plain.2 limit]
      simp only [nestingAll, Nat.max_le, Bool.decide_and]
termination_by sizeOf items

theorem areProperFields_eq (fields : List (String × Json)) (plain : ArePlainFields fields)
    (limit : Nat) :
    areProperFields limit fields = decide (nestingFields fields ≤ limit) := by
  cases fields with
  | nil => simp [areProperFields, nestingFields]
  | cons field rest =>
      cases field with
      | mk name value =>
          rw [areProperFields, isProper_eq value plain.1 limit,
            areProperFields_eq rest plain.2 limit]
          simp only [nestingFields, Nat.max_le, Bool.decide_and]
termination_by sizeOf fields

end

end TreeMacros.Json
