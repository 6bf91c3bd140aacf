import TreeMacros.Decimal.Binary
import TreeMacros.Fields

/-! # JSON documents

The data that goes over the wire. Whole numbers of a machine word are kept apart from other
numbers, and an object is the list of its fields in the order of the text, repeated names
included. `Json.settled` gives an object one field per name.
-/

namespace TreeMacros

/-- A JSON document. -/
inductive Json where
  | null
  | bool (value : Bool)
  /-- A whole number between `-2 ^ 63` and `2 ^ 64 - 1`, written without point and exponent. -/
  | int (value : Int)
  /-- Any other number. -/
  | float (value : Float)
  | string (value : String)
  | array (items : List Json)
  | object (fields : List (String × Json))
  /-- What is in correct form but stands for nothing: a number out of range, a text with one half
      of a surrogate pair, or an object with such a text as a name. It may be skipped but not
      used. -/
  | void
  deriving Inhabited

namespace Json

/-- The fields of an object. -/
def fields? : Json → Option (List (String × Json))
  | object fields => some fields
  | _ => none

/-- The items of an array. -/
def items? : Json → Option (List Json)
  | array items => some items
  | _ => none

/-- The text of a string. -/
def string? : Json → Option String
  | string value => some value
  | _ => none

/-- The truth value of a boolean. -/
def bool? : Json → Option Bool
  | bool value => some value
  | _ => none

/-- The float nearest to a number. -/
def number? : Json → Option Float
  | int value => some (Binary.ofInt value)
  | float value => some value
  | _ => none

/-- A word of 64 bits. -/
def word? : Json → Option UInt64
  | int value => if 0 ≤ value then some (UInt64.ofNat value.toNat) else none
  | _ => none

/-- The value of the first field with the given name. -/
def get? (json : Json) (name : String) : Option Json :=
  json.fields?.bind (List.lookup name)

/-- The fields with one value per name: the last one, at the place of the first. -/
def settleFields (fields : List (String × Json)) : List (String × Json) :=
  fields.foldl (fun done field => Fields.set field.1 field.2 done) []

mutual

/-- The document with one field per name in every object. -/
def settled : Json → Json
  | array items => array (settledItems items)
  | object fields => object (settleFields (settledFields fields))
  | json => json

def settledItems : List Json → List Json
  | [] => []
  | item :: rest => item.settled :: settledItems rest

def settledFields : List (String × Json) → List (String × Json)
  | [] => []
  | (name, value) :: rest => (name, value.settled) :: settledFields rest

end

mutual

/-- Whether nothing in the document is void and arrays and objects are nested at most `limit` deep. -/
def isProper : Nat → Json → Bool
  | _, void => false
  | limit, array items =>
    match limit with
    | 0 => false
    | limit + 1 => areProper limit items
  | limit, object fields =>
    match limit with
    | 0 => false
    | limit + 1 => areProperFields limit fields
  | _, _ => true

def areProper : Nat → List Json → Bool
  | _, [] => true
  | limit, item :: rest => item.isProper limit && areProper limit rest

def areProperFields : Nat → List (String × Json) → Bool
  | _, [] => true
  | limit, (_, value) :: rest => value.isProper limit && areProperFields limit rest

end

end Json

end TreeMacros
