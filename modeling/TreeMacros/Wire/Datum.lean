import TreeMacros.Datum
import TreeMacros.Wire.Struct

/-! # Data on the wire

Unlike plain JSON, this form keeps every detail of a datum: each value stands under the name of
its kind. Reading goes bottom up, as for nodes.
-/

namespace TreeMacros.Datum

/-! ## Writing -/

/-- A text, or null for none. -/
def textOrNull (text : Option String) : Json :=
  text.elim .null .string

/-- The texts of a list. -/
def textsToJson (texts : List String) : Json :=
  .array (texts.map .string)

mutual

/-- A datum with the names of all kinds in it. -/
def toWire : Datum → Json
  | null => .string "Null"
  | bool value => .object [("Bool", .bool value)]
  | number value => .object [("Number", .float value)]
  | string value => .object [("String", .string value)]
  | list items => .object [("List", .array (toWireAll items))]
  | object traits fields =>
    .object [("Object", .object [("ctor", textOrNull traits.ctor),
      ("bases", textsToJson traits.bases), ("fields", .array (toWireFields fields)),
      ("match_args", traits.matchArgs.elim .null textsToJson)])]

def toWireAll : List Datum → List Json
  | [] => []
  | item :: rest => item.toWire :: toWireAll rest

def toWireFields : List (String × Datum) → List Json
  | [] => []
  | (name, value) :: rest => .array [.string name, value.toWire] :: toWireFields rest

end

/-! ## Reading -/

/-- What a document is when it stands for a part of a datum. -/
structure WireReading where
  json : Json
  datum : Option Datum
  /-- An array as data. -/
  data : Option (List Datum)
  /-- A name and a datum. -/
  field : Option (String × Datum)
  /-- An array of names and data. -/
  fields : Option (List (String × Datum))
  /-- The structure of an object. -/
  object : Option Datum

namespace WireReading

/-- The reading of what can only be itself. -/
def plain (json : Json) : WireReading :=
  ⟨json, none, none, none, none, none⟩

/-- The object that the values of its fields make. Null and absence both stand for none. -/
def object? : List (Option WireReading) → Option Datum
  | [ctor, some bases, some fields, matchArgs] => do
    let ctor ← Wire.optional? Json.string? (ctor.map (·.json))
    let bases ← Wire.strings? bases.json
    let fields ← fields.fields
    let matchArgs ← Wire.optional? Wire.strings? (matchArgs.map (·.json))
    return .object ⟨ctor, bases, matchArgs⟩ fields
  | _ => none

/-- The names of the fields of an object. -/
def objectNames : List String := ["ctor", "bases", "fields", "match_args"]

/-- The datum of the kind with the given name. -/
def kind? (name : String) (content : WireReading) : Option Datum :=
  match name with
  | "Null" => match content.json with
    | .null => some .null
    | _ => none
  | "Bool" => content.json.bool?.map .bool
  | "Number" => content.json.number?.map .number
  | "String" => content.json.string?.map .string
  | "List" => content.data.map .list
  | "Object" => content.object
  | _ => none

end WireReading

open WireReading in
mutual

/-- What a document is as a part of a datum. What is nested more deeply than `limit` is nothing. -/
def wireReading (limit : Nat) : Json → WireReading
  | .string name => { plain (.string name) with datum := if name == "Null" then some null else none }
  | .array items =>
    match limit with
    | 0 => plain .void
    | limit + 1 =>
      let readings := wireReadings limit items
      { json := .array items
        datum := none
        data := readings.mapM (·.datum)
        field := match readings with
          | [name, value] => do return (← name.json.string?, ← value.datum)
          | _ => none
        fields := readings.mapM (·.field)
        object :=
          if readings.length == objectNames.length then object? (readings.map some) else none }
  | .object fields =>
    match limit with
    | 0 => plain .void
    | limit + 1 =>
      let readings := wireFieldReadings limit fields
      { plain (.object fields) with
        datum := match readings with
          | [(name, content)] => kind? name content
          | _ => none
        object := (Wire.ofFields? objectNames readings).bind object? }
  | json => plain json

def wireReadings (limit : Nat) : List Json → List WireReading
  | [] => []
  | item :: rest => wireReading limit item :: wireReadings limit rest

def wireFieldReadings (limit : Nat) : List (String × Json) → List (String × WireReading)
  | [] => []
  | (name, value) :: rest => (name, wireReading limit value) :: wireFieldReadings limit rest

end

/-- The datum that a document stands for. Arrays and objects may be nested `limit` deep, apart from
    fields that are not known. -/
def ofWire? (limit : Nat) (json : Json) : Option Datum :=
  (wireReading limit json).datum

end TreeMacros.Datum
