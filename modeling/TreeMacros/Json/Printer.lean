import TreeMacros.Decimal.Shortest
import TreeMacros.Json
import TreeMacros.Json.Quoted

/-! # Writing JSON

The compact text of a document: no white space, fields in their order. A number that is not
whole is written with a point, so that it reads back as one.
-/

namespace TreeMacros.Json

/-- A number as a JSON literal; one that is not finite has none. -/
def floatText (x : Float) : String :=
  if x.isNaN || x.isInf then "null"
  else
    let text := Decimal.text Decimal.spelledOut x
    if text.contains '.' then text else text ++ ".0"

mutual

/-- The compact text of a document. -/
def print : Json → String
  | null => "null"
  | bool value => if value then "true" else "false"
  | int value => value.repr
  | float value => floatText value
  | string value => Quoted.encode value
  | array items => "[" ++ printItems items ++ "]"
  | object fields => "\x7b" ++ printFields fields ++ "\x7d"
  | void => "null"

/-- Documents with commas between them. -/
def printItems : List Json → String
  | [] => ""
  | [item] => item.print
  | item :: next :: rest => item.print ++ "," ++ printItems (next :: rest)

/-- Fields with commas between them. -/
def printFields : List (String × Json) → String
  | [] => ""
  | [(name, value)] => Quoted.encode name ++ ":" ++ value.print
  | (name, value) :: next :: rest =>
    Quoted.encode name ++ ":" ++ value.print ++ "," ++ printFields (next :: rest)

end

end TreeMacros.Json
