import TreeMacros.Definition
import TreeMacros.Wire.Struct

/-! # Nodes on the wire

A node is an object tagged with its kind, or the array of the kind and the fields in order. An
expansion is a node or an array of nodes. Reading goes bottom up: a `Reading` says what a document
is as a node and as a list of nodes, so that each part is looked at once.
-/

namespace TreeMacros

/-! ## Writing -/

def Position.toJson (p : Position) : Json :=
  .object [("index", .int p.index.toNat), ("line", .int p.line.toNat),
    ("column", .int p.column.toNat)]

def Span.toJson (s : Span) : Json :=
  .object [("start", s.start.toJson), ("end", s.stop.toJson)]

namespace Node

/-- The field for a location, if there is one. -/
def locField (loc : Option Span) : List (String × Json) :=
  match loc with
  | some span => [("loc", span.toJson)]
  | none => []

mutual

def toJson : Node → Json
  | leaf kind text loc =>
    .object (("kind", .string kind.name) :: ("value", .string text) :: locField loc)
  | binop left operator right loc =>
    .object (("kind", .string "binop") :: ("left", left.toJson) :: ("op", .string operator) ::
      ("right", right.toJson) :: locField loc)
  | bracket kind children loc =>
    .object (("kind", .string kind.name) :: ("nodes", .array (toJsonAll children)) :: locField loc)

def toJsonAll : List Node → List Json
  | [] => []
  | node :: rest => node.toJson :: toJsonAll rest

end

end Node

def Expansion.toJson : Expansion → Json
  | .node n => n.toJson
  | .nodes ns => .array (Node.toJsonAll ns)

/-! ## Reading -/

def Position.ofJson? (json : Json) : Option Position := do
  match ← Wire.struct? ["index", "line", "column"] json with
  | [some index, some line, some column] =>
    return ⟨← index.word?, ← line.word?, ← column.word?⟩
  | _ => none

def Span.ofJson? (json : Json) : Option Span := do
  match ← Wire.struct? ["start", "end"] json with
  | [some start, some stop] => return ⟨← Position.ofJson? start, ← Position.ofJson? stop⟩
  | _ => none

namespace Node

/-- The form of a node, which says what its fields are. -/
inductive Form where
  | leaf (kind : LeafKind)
  | binop
  | bracket (kind : Bracket)

/-- The forms by the names of the kinds, in the order in which kinds are numbered. -/
def forms : List (String × Form) :=
  [("identifier", .leaf .identifier), ("string", .leaf .string), ("number", .leaf .number),
    ("operator", .leaf .operator), ("binop", .binop), ("round", .bracket .round),
    ("square", .bracket .square), ("curly", .bracket .curly), ("sequence", .bracket .sequence)]

/-- The form that a kind stands for. Inside another structure the kind may also be given by its
    number. -/
def Form.ofKind? (inside : Bool) : Json → Option Form
  | .string name => forms.lookup name
  | .int number => if inside && 0 ≤ number then (forms[number.toNat]?).map (·.2) else none
  | _ => none

/-- The names of the fields of a form. -/
def Form.names : Form → List String
  | leaf _ => ["value", "loc"]
  | binop => ["left", "op", "right", "loc"]
  | bracket _ => ["nodes", "loc"]

/-- What a document is when it stands for a part of a node. -/
structure Reading where
  json : Json
  node : Option Node
  nodes : Option (List Node)

/-- The node of a form with the given values of its fields. -/
def Form.build? (form : Form) (values : List (Option Reading)) : Option Node := do
  match form, values with
  | leaf kind, [some text, loc] =>
    return .leaf kind (← text.json.string?) (← Wire.optional? Span.ofJson? (loc.map (·.json)))
  | binop, [some left, some operator, some right, loc] =>
    return .binop (← left.node) (← operator.json.string?) (← right.node)
      (← Wire.optional? Span.ofJson? (loc.map (·.json)))
  | bracket kind, [some children, loc] =>
    return .bracket kind (← children.nodes) (← Wire.optional? Span.ofJson? (loc.map (·.json)))
  | _, _ => none

/-- The node that the fields of an object make. -/
def ofFields? (inside : Bool) (fields : List (String × Reading)) : Option Node := do
  let kind ← ← Wire.single? fields "kind"
  let form ← Form.ofKind? inside kind.json
  form.build? (← Wire.ofFields? form.names fields)

/-- The node that the items of an array make. -/
def ofItems? (inside : Bool) : List Reading → Option Node
  | [] => none
  | kind :: items => do
    let form ← Form.ofKind? inside kind.json
    form.build? (← Wire.ofItems? form.names items)

mutual

/-- What a document is as a part of a node. -/
def reading : Json → Reading
  | .array items =>
    let readings := readings items
    ⟨.array items, ofItems? true readings, readings.mapM (·.node)⟩
  | .object fields => ⟨.object fields, ofFields? true (fieldReadings fields), none⟩
  | json => ⟨json, none, none⟩

def readings : List Json → List Reading
  | [] => []
  | item :: rest => reading item :: readings rest

def fieldReadings : List (String × Json) → List (String × Reading)
  | [] => []
  | (name, value) :: rest => (name, reading value) :: fieldReadings rest

end

/-- The node that a document is, standing alone. -/
def ofJson? : Json → Option Node
  | .array items => ofItems? false (readings items)
  | .object fields => ofFields? false (fieldReadings fields)
  | _ => none

/-- The nodes of an array of them. -/
def listOfJson? : Json → Option (List Node)
  | .array items => items.mapM ofJson?
  | _ => none

end Node

/-- The expansion that a document is. What reads as a node is one. -/
def Expansion.ofJson? (json : Json) : Option Expansion :=
  let reading := Node.reading json
  (reading.node.map .node).or (reading.nodes.map .nodes)

/-- Whether a document has the shape of a node: an object with a kind that is a text. -/
def Json.isNodeShaped (json : Json) : Bool :=
  match json.get? "kind" with
  | some (.string _) => true
  | _ => false

end TreeMacros
