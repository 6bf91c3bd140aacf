import TreeMacros.Datum
import TreeMacros.Decimal.Shortest

/-! # Data as text

How a datum is shown: texts without quotes, lists in square brackets, objects as their
constructor and their fields in curly brackets.
-/

namespace TreeMacros.Datum

mutual

/-- The text of a datum. -/
def text : Datum → String
  | null => "null"
  | bool value => if value then "true" else "false"
  | number value => Decimal.format value
  | string value => value
  | list items => "[" ++ textAll items ++ "]"
  | object traits fields =>
    (traits.ctor.elim "" (· ++ " ")) ++ "\x7b" ++ textFields fields ++ "\x7d"

/-- Texts with commas between them. -/
def textAll : List Datum → String
  | [] => ""
  | [item] => item.text
  | item :: next :: rest => item.text ++ ", " ++ textAll (next :: rest)

/-- Fields with commas between them. -/
def textFields : List (String × Datum) → String
  | [] => ""
  | [(name, value)] => name ++ ": " ++ value.text
  | (name, value) :: next :: rest =>
    name ++ ": " ++ value.text ++ ", " ++ textFields (next :: rest)

end

end TreeMacros.Datum
