import TreeMacros.Span

/-! # Nodes

The tree that macros consume and produce. A node is a leaf with a text, a binary operation, or
a bracket around children; each may be located in a source text. Comparing nodes with `Node.same`
looks through the locations.
-/

namespace TreeMacros

/-- The kinds of leaf. A number keeps the text it was written with. -/
inductive LeafKind where
  | identifier
  | string
  | number
  | operator
  deriving Repr, DecidableEq, Inhabited

/-- The bracket kinds, and the unbracketed sequence. -/
inductive Bracket where
  | round
  | square
  | curly
  | sequence
  deriving Repr, DecidableEq, Inhabited

/-- A tree of expressions. -/
inductive Node where
  | leaf (kind : LeafKind) (text : String) (loc : Option Span)
  | binop (left : Node) (operator : String) (right : Node) (loc : Option Span)
  | bracket (kind : Bracket) (children : List Node) (loc : Option Span)
  deriving Repr, Inhabited

namespace LeafKind

/-- The name of the kind on the wire. -/
def name : LeafKind → String
  | identifier => "identifier"
  | string => "string"
  | number => "number"
  | operator => "operator"

end LeafKind

namespace Bracket

/-- The name of the kind on the wire. -/
def name : Bracket → String
  | round => "round"
  | square => "square"
  | curly => "curly"
  | sequence => "sequence"

/-- What stands before and after the children in the printed form. -/
def delimiters : Bracket → String × String
  | round => ("(", ")")
  | square => ("[", "]")
  | curly => ("\x7b", "\x7d")
  | sequence => ("", "")

end Bracket

namespace Node

/-! ## Unlocated nodes -/

def ident (name : String) : Node := .leaf .identifier name none
def string (text : String) : Node := .leaf .string text none
def number (text : String) : Node := .leaf .number text none
def operation (text : String) : Node := .leaf .operator text none
def binary (left : Node) (operator : String) (right : Node) : Node := .binop left operator right none
def round (children : List Node) : Node := .bracket .round children none
def square (children : List Node) : Node := .bracket .square children none
def curly (children : List Node) : Node := .bracket .curly children none
def sequence (children : List Node) : Node := .bracket .sequence children none

/-! ## Parts -/

/-- Where the node was read. -/
def loc : Node → Option Span
  | leaf _ _ loc | binop _ _ _ loc | bracket _ _ loc => loc

/-- The same node, read at `span`. -/
def located (span : Span) : Node → Node
  | leaf kind text _ => leaf kind text (some span)
  | binop left operator right _ => binop left operator right (some span)
  | bracket kind children _ => bracket kind children (some span)

/-- The name of the node's kind on the wire. -/
def kindName : Node → String
  | leaf kind _ _ => kind.name
  | binop .. => "binop"
  | bracket kind _ _ => kind.name

/-- The name that an identifier node carries. -/
def ident? : Node → Option String
  | leaf .identifier name _ => some name
  | _ => none

/-- Whether this is the identifier `name`. -/
def isIdent (node : Node) (name : String) : Bool :=
  node.ident? == some name

/-- The kind of a bracketed node. -/
def bracket? : Node → Option Bracket
  | bracket kind _ _ => some kind
  | _ => none

/-- The children of a bracketed node. -/
def children? : Node → Option (List Node)
  | bracket _ children _ => some children
  | _ => none

/-- Whether this is a curly form whose first child is the identifier `head`. -/
def isHeaded (node : Node) (head : String) : Bool :=
  match node with
  | bracket .curly (first :: _) _ => first.isIdent head
  | _ => false

/-! ## Comparison -/

mutual

/-- Whether two nodes are equal up to their locations. -/
def same : Node → Node → Bool
  | leaf kind text _, leaf kind' text' _ => kind == kind' && text == text'
  | binop left operator right _, binop left' operator' right' _ =>
    operator == operator' && left.same left' && right.same right'
  | bracket kind children _, bracket kind' children' _ => kind == kind' && sameAll children children'
  | _, _ => false

/-- Whether two lists of nodes are equal, node by node, up to locations. -/
def sameAll : List Node → List Node → Bool
  | [], [] => true
  | node :: rest, node' :: rest' => node.same node' && sameAll rest rest'
  | _, _ => false

end

end Node

end TreeMacros
