import TreeMacros.Decimal.Binary
import TreeMacros.Fields

/-! # Data

The run-time data that patterns are matched against: primitives, lists, and objects whose fields
are ordered and which may know their constructor, its bases and the order of their positional
fields.
-/

namespace TreeMacros

/-- What an object knows about itself, apart from its fields. -/
structure Traits where
  /-- The name of the constructor; a plain dictionary has none. -/
  ctor : Option String := none
  /-- The names of the types that the constructor derives from. -/
  bases : List String := []
  /-- The order of the positional fields, where it is declared. -/
  matchArgs : Option (List String) := none
  deriving Repr, DecidableEq, Inhabited

/-- A piece of run-time data. -/
inductive Datum where
  | null
  | bool (value : Bool)
  | number (value : Float)
  | string (value : String)
  | list (items : List Datum)
  | object (traits : Traits) (fields : List (String × Datum))
  deriving Inhabited

namespace Traits

/-- The name of the constructor; a dictionary counts as an `Object`. -/
def ctorName (traits : Traits) : String :=
  traits.ctor.getD "Object"

end Traits

namespace Datum

/-- The name of the type. -/
def typeName : Datum → String
  | null => "null"
  | bool _ => "bool"
  | number _ => "number"
  | string _ => "str"
  | list _ => "list"
  | object traits _ => traits.ctorName

/-- Null, false, zero, NaN and the empty text are false; all else is true. -/
def isTruthy : Datum → Bool
  | null => false
  | bool value => value
  | number value => value != 0 && !value.isNaN
  | string value => value != ""
  | list _ | object .. => true

def isNull : Datum → Bool
  | null => true
  | _ => false

def number? : Datum → Option Float
  | number value => some value
  | _ => none

def string? : Datum → Option String
  | string value => some value
  | _ => none

def list? : Datum → Option (List Datum)
  | list items => some items
  | _ => none

/-- Whether the datum has parts: a list or an object. -/
def isCompound : Datum → Bool
  | list _ | object .. => true
  | _ => false

/-- The value of the first field with the given name. -/
def field? (fields : List (String × Datum)) (name : String) : Option Datum :=
  fields.lookup name

/-- The names of the fields in positional order: as declared, or as they stand. -/
def positionalFields (traits : Traits) (fields : List (String × Datum)) : List String :=
  traits.matchArgs.getD (fields.map (·.1))

/-- A member by name. Lists and texts have a length; what is missing is null. -/
def member (datum : Datum) (name : String) : Datum :=
  match datum with
  | object _ fields => (field? fields name).getD null
  | list items => if name == "length" then number (Float.ofNat items.length) else null
  | string value => if name == "length" then number (Float.ofNat value.length) else null
  | _ => null

mutual

/-- Whether two data are equal. Numbers compare as numbers: the zeros are equal and NaN equals
    nothing. -/
def equal : Datum → Datum → Bool
  | null, null => true
  | bool a, bool b => a == b
  | number a, number b => a == b
  | string a, string b => a == b
  | list a, list b => equalAll a b
  | object traits a, object traits' b => traits == traits' && equalFields a b
  | _, _ => false

def equalAll : List Datum → List Datum → Bool
  | [], [] => true
  | a :: rest, b :: rest' => a.equal b && equalAll rest rest'
  | _, _ => false

def equalFields : List (String × Datum) → List (String × Datum) → Bool
  | [], [] => true
  | (name, a) :: rest, (name', b) :: rest' => name == name' && a.equal b && equalFields rest rest'
  | _, _ => false

end

end Datum

end TreeMacros
