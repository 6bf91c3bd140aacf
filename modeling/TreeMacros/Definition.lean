import TreeMacros.Operator.Grouping

/-! # Macros

A macro is either host code or a definition that is data: parameter names and body nodes. What
a macro produces is an `Expansion`. The host lends macros its `Services`.
-/

namespace TreeMacros

/-- What a macro produced: one node, or a list that takes the place of the call. -/
inductive Expansion where
  | node (node : Node)
  | nodes (nodes : List Node)
  deriving Repr, Inhabited

namespace Expansion

/-- The nodes that take the place of the call. -/
def toList : Expansion → List Node
  | node n => [n]
  | nodes ns => ns

end Expansion

/-- A macro that is data. -/
structure Definition where
  params : List String
  body : List Node
  deriving Repr, Inhabited

/-- A definition under its name, as it goes over the wire. -/
structure Record where
  name : String
  definition : Definition
  deriving Repr, Inhabited

/-- What the host does for macros while they run. -/
structure Services where
  /-- Normalise an argument list. -/
  regular : List Node → List Node
  /-- Read source text. -/
  parse : String → Except Fault (List Node)
  /-- Fold loose operators. -/
  group : List Node → Except Fault (List Node)

/-- The services of a host without a source parser. -/
def Services.plain : Services where
  regular := id
  parse _ := .error { cause := .noSourceParser }
  group := groupOperators

/-- A macro that is host code. It cannot be sent over the wire. -/
abbrev NativeMacro := List Node → Services → Except Fault Expansion

/-- What a name is registered for. -/
inductive Entry where
  | native (run : NativeMacro)
  | defined (definition : Definition)

namespace Entry

/-- Whether this is host code. -/
def isNative : Entry → Bool
  | native _ => true
  | defined _ => false

/-- The definition, if this is data. -/
def definition? : Entry → Option Definition
  | native _ => none
  | defined definition => some definition

end Entry

end TreeMacros
