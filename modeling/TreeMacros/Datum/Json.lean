import TreeMacros.Datum
import TreeMacros.Json

/-! # Data as JSON

An object's traits stand among its fields, under names of their own. A whole number below nine
quadrillions is written as such; a number that is not finite is written as null.
-/

namespace TreeMacros.Datum

/-- The name under which the constructor stands. -/
def ctorKey : String := "__ctor__"

/-- The name under which the bases stand. -/
def basesKey : String := "__bases__"

/-- The name under which the positional order stands. -/
def matchArgsKey : String := "__match_args__"

/-- The texts of an array; anything else in it is skipped, and what is no array has none. -/
def textsOf (json : Json) : List String :=
  (json.items?.getD []).filterMap Json.string?

/-- Take one field of a document into an object. -/
def takeField (name : String) (json : Json) (value : Datum) (object : Traits × List (String × Datum)) :
    Traits × List (String × Datum) :=
  let (traits, fields) := object
  if name == ctorKey then ({ traits with ctor := json.string? }, fields)
  else if name == basesKey then ({ traits with bases := textsOf json }, fields)
  else if name == matchArgsKey then ({ traits with matchArgs := some (textsOf json) }, fields)
  else (traits, fields ++ [(name, value)])

mutual

/-- The datum that a document stands for. -/
def ofJson : Json → Datum
  | .null | .void => null
  | .bool value => bool value
  | .int value => number (Binary.ofInt value)
  | .float value => number value
  | .string value => string value
  | .array items => list (ofJsonAll items)
  | .object fields =>
    let (traits, fields) := ofJsonFields fields ({}, [])
    object traits fields

def ofJsonAll : List Json → List Datum
  | [] => []
  | item :: rest => ofJson item :: ofJsonAll rest

def ofJsonFields : List (String × Json) → Traits × List (String × Datum) →
    Traits × List (String × Datum)
  | [], done => done
  | (name, json) :: rest, done => ofJsonFields rest (takeField name json (ofJson json) done)

end

/-- Whole numbers below this are written without a point. -/
def wholeBound : Nat := 9 * Nat.pow 10 15

/-- A number as a document. -/
def numberToJson (x : Float) : Json :=
  match Binary.whole? x with
  | some n => if n.natAbs < wholeBound then .int n else .float x
  | none => if x.isNaN || x.isInf then .null else .float x

/-- The fields that stand for the traits of an object. -/
def traitFields (traits : Traits) : List (String × Json) :=
  let texts := fun names => Json.array (names.map Json.string)
  (traits.ctor.elim [] fun ctor => [(ctorKey, Json.string ctor)]) ++
    (if traits.bases.isEmpty then [] else [(basesKey, texts traits.bases)]) ++
    (traits.matchArgs.elim [] fun names => [(matchArgsKey, texts names)])

mutual

/-- The document that stands for a datum. -/
def toJson : Datum → Json
  | null => .null
  | bool value => .bool value
  | number value => numberToJson value
  | string value => .string value
  | list items => .array (toJsonAll items)
  | object traits fields => .object (toJsonFields fields (traitFields traits))

def toJsonAll : List Datum → List Json
  | [] => []
  | item :: rest => item.toJson :: toJsonAll rest

def toJsonFields : List (String × Datum) → List (String × Json) → List (String × Json)
  | [], done => done
  | (name, value) :: rest, done => toJsonFields rest (Fields.set name value.toJson done)

end

end TreeMacros.Datum
