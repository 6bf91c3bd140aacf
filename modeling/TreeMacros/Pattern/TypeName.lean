import TreeMacros.Datum

/-! # Type names in patterns

A primitive type has one or two names; an object also has its constructor and its bases, and a
list is an `Array`.
-/

namespace TreeMacros.Datum

/-- Whether a datum is of the named type. -/
def hasType (datum : Datum) (typeName : String) : Bool :=
  match typeName with
  | "str" | "string" => datum.string?.isSome
  | "int" => (datum.number?.bind Binary.whole?).isSome
  | "float" | "number" => datum.number?.isSome
  | "bool" | "boolean" => match datum with
    | bool _ => true
    | _ => false
  | "list" | "array" => datum.list?.isSome
  | "dict" | "object" => match datum with
    | object .. => true
    | _ => false
  | _ => match datum with
    | object traits _ => traits.ctorName == typeName || traits.bases.contains typeName
    | list _ => typeName == "Array"
    | _ => false

end TreeMacros.Datum
