import TreeMacros.Json

/-! # Structures on the wire

A structure with known field names is read from an object, whose further fields are ignored, or
from the array of its field values in order. A field may be absent from an object, and so may the
last ones from an array; whether that is allowed is for the reader of the structure to say.
-/

namespace TreeMacros.Wire

/-- The only value under a name; nothing if there are two. -/
def single? {α : Type} (fields : List (String × α)) (name : String) : Option (Option α) :=
  match fields.filter (·.1 == name) with
  | [] => some none
  | [(_, value)] => some (some value)
  | _ => none

/-- The values of the named fields among the fields of an object. -/
def ofFields? {α : Type} (names : List String) (fields : List (String × α)) :
    Option (List (Option α)) :=
  names.mapM (single? fields)

/-- The values of the named fields when they stand in order. -/
def ofItems? {α : Type} (names : List String) (items : List α) : Option (List (Option α)) :=
  if names.length < items.length then none
  else some (items.map some ++ List.replicate (names.length - items.length) none)

/-- The values of the named fields of a structure. -/
def struct? (names : List String) : Json → Option (List (Option Json))
  | .object fields => ofFields? names fields
  | .array items => ofItems? names items
  | _ => none

/-- A field that may be absent or null. -/
def optional? {α : Type} (read : Json → Option α) : Option Json → Option (Option α)
  | none | some .null => some none
  | some json => (read json).map some

/-- An array of texts. -/
def strings? (json : Json) : Option (List String) :=
  json.items?.bind fun items => items.mapM Json.string?

/-- An object without the fields that are none. -/
def object (fields : List (String × Option Json)) : Json :=
  .object (fields.filterMap fun (name, value) => value.map (name, ·))

end TreeMacros.Wire
