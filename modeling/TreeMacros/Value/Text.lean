import TreeMacros.Decimal.Shortest
import TreeMacros.Node.Printer
import TreeMacros.Store
import TreeMacros.Text.Debug

/-! # Values as text

The text of a value, as macro bodies see it, and its debug text. A list is shown by its items
with commas between them, null items as nothing. A list that contains itself has no text: the
text is looked for one level deeper than there are lists, and where that does not suffice some
list is inside itself.
-/

namespace TreeMacros

/-- The text of a function. -/
def functionText (name : String) : String :=
  "[function " ++ name ++ "]"

namespace Value

/-- The text of a value, if lists are nested at most `depth` deep. -/
def textWithin? (store : Store) : Nat → Value → Option String
  | _, null => some "null"
  | _, bool value => some (if value then "true" else "false")
  | _, number value => some (Decimal.format value)
  | _, text value => some value
  | _, node n => some n.pretty
  | _, closure _ c => some (functionText (c.name.getD "anonymous"))
  | _, native _ n => some (functionText n.name)
  | 0, list _ => none
  | depth + 1, list id => do
    let texts ← (store.items id).toList.mapM fun item =>
      match item with
      | null => some ""
      | item => textWithin? store depth item
    return ",".intercalate texts

/-- The text of a value. -/
def text? (store : Store) (value : Value) : Option String :=
  value.textWithin? store (store.lists.size + 1)

/-- The debug text of an optional name. -/
def debugName : Option String → String
  | none => "None"
  | some name => "Some(" ++ Text.debug name ++ ")"

/-- The debug text of a value, if lists are nested at most `depth` deep. -/
def debugWithin? (store : Store) : Nat → Value → Option String
  | _, null => some "Null"
  | _, bool value => some (if value then "Bool(true)" else "Bool(false)")
  | _, number value => some ("Num(" ++ Decimal.text Decimal.abbreviated value ++ ")")
  | _, text value => some ("Str(" ++ Text.debug value ++ ")")
  | _, node n => some ("Node(" ++ n.pretty ++ ")")
  | _, closure _ c =>
    some ("Closure(" ++ debugName c.name ++ ", " ++ Text.debugList c.params ++ ")")
  | _, native _ n => some ("Native(" ++ n.name ++ ")")
  | 0, list _ => none
  | depth + 1, list id => do
    let texts ← (store.items id).toList.mapM (debugWithin? store depth)
    return "[" ++ ", ".intercalate texts ++ "]"

/-- The debug text of a value. -/
def debug? (store : Store) (value : Value) : Option String :=
  value.debugWithin? store (store.lists.size + 1)

end Value

end TreeMacros
