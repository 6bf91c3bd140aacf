import TreeMacros.Proofs.Json.Plain
import TreeMacros.Wire.Node

/-! # Nodes survive the wire

A node, a location or an expansion reads as what was written, with the location of every node and
whether an expansion is one node or a list. What is written is plain.
-/

namespace TreeMacros

theorem Wire.mapM_some {α : Type} (values : List α) :
    values.mapM (fun value => some value) = some values :=
  List.mapM_pure.trans (congrArg some (List.map_id values))

/-! ## Locations -/

theorem Json.word?_toNat (word : UInt64) : Json.word? (.int word.toNat) = some word := by
  simp [Json.word?]

theorem Json.isPlain_word (word : UInt64) : (Json.int word.toNat).IsPlain := by
  have high := word.toNat_lt
  simp only [Json.IsPlain, Nat.pow_eq]
  omega

theorem Position.ofJson?_toJson (p : Position) : Position.ofJson? p.toJson = some p := by
  simp [Position.ofJson?, Position.toJson, Wire.struct?, Wire.ofFields?, Wire.single?,
    Json.word?_toNat]

theorem Position.isPlain_toJson (p : Position) : p.toJson.IsPlain :=
  ⟨Json.isPlain_word p.index, Json.isPlain_word p.line, Json.isPlain_word p.column, trivial⟩

theorem Span.ofJson?_toJson (span : Span) : Span.ofJson? span.toJson = some span := by
  simp [Span.ofJson?, Span.toJson, Wire.struct?, Wire.ofFields?, Wire.single?,
    Position.ofJson?_toJson]

theorem Span.isPlain_toJson (span : Span) : span.toJson.IsPlain :=
  ⟨span.start.isPlain_toJson, span.stop.isPlain_toJson, trivial⟩

namespace Node

/-! ## Nodes -/

theorem forms_leaf (kind : LeafKind) : forms.lookup kind.name = some (.leaf kind) := by
  cases kind <;> rfl

theorem forms_binop : forms.lookup "binop" = some .binop := rfl

theorem forms_bracket (kind : Bracket) : forms.lookup kind.name = some (.bracket kind) := by
  cases kind <;> rfl

@[simp]
theorem reading_json (json : Json) : (reading json).json = json := by
  cases json <;> rfl

theorem optional?_none : Wire.optional? Span.ofJson? none = some none := rfl

theorem optional?_span (span : Span) :
    Wire.optional? Span.ofJson? (some span.toJson) = some (some span) := by
  have read := span.ofJson?_toJson
  unfold Span.toJson at read ⊢
  simp [Wire.optional?, read]

mutual

/-- Standing alone or inside another structure, a node reads as itself. -/
theorem toJson_eq_object (node : Node) : ∃ fields, node.toJson = .object fields ∧
    ∀ inside, ofFields? inside (fieldReadings fields) = some node := by
  cases node with
  | leaf kind text loc =>
      refine ⟨_, rfl, fun inside => ?_⟩
      cases loc <;>
        simp [fieldReadings, locField, ofFields?, Wire.single?, Wire.ofFields?, Form.ofKind?,
          forms_leaf, Form.names, Form.build?, Json.string?, optional?_none, optional?_span]
  | binop left operator right loc =>
      refine ⟨_, rfl, fun inside => ?_⟩
      cases loc <;>
        simp [fieldReadings, locField, ofFields?, Wire.single?, Wire.ofFields?, Form.ofKind?,
          forms_binop, Form.names, Form.build?, Json.string?, optional?_none, optional?_span,
          reading_toJson left, reading_toJson right]
  | bracket kind children loc =>
      refine ⟨_, rfl, fun inside => ?_⟩
      cases loc <;>
        simp [fieldReadings, locField, ofFields?, Wire.single?, Wire.ofFields?, Form.ofKind?,
          forms_bracket, Form.names, Form.build?, Json.string?, optional?_none, optional?_span,
          nodes_toJsonAll children]
termination_by (sizeOf node, 0)

theorem reading_toJson (node : Node) : reading node.toJson = ⟨node.toJson, some node, none⟩ := by
  obtain ⟨fields, isObject, reads⟩ := toJson_eq_object node
  simp only [isObject, reading, reads]
termination_by (sizeOf node, 1)

theorem readings_toJsonAll (nodes : List Node) :
    readings (toJsonAll nodes) = nodes.map fun node => ⟨node.toJson, some node, none⟩ := by
  cases nodes with
  | nil => rfl
  | cons node rest =>
      simp only [toJsonAll, readings, reading_toJson node, readings_toJsonAll rest, List.map_cons]
termination_by (sizeOf nodes, 0)

theorem nodes_toJsonAll (nodes : List Node) :
    (reading (.array (toJsonAll nodes))).nodes = some nodes := by
  simp [reading, readings_toJsonAll nodes, Function.comp_def, Wire.mapM_some]
termination_by (sizeOf nodes, 1)

end

theorem ofJson?_toJson (node : Node) : ofJson? node.toJson = some node := by
  obtain ⟨fields, isObject, reads⟩ := toJson_eq_object node
  simp only [isObject, ofJson?, reads]

theorem listOfJson?_toJsonAll (nodes : List Node) :
    listOfJson? (.array (toJsonAll nodes)) = some nodes := by
  simp only [listOfJson?]
  induction nodes with
  | nil => rfl
  | cons node rest ih => simp [toJsonAll, ofJson?_toJson, ih]

theorem isPlain_locField (loc : Option Span) : Json.ArePlainFields (locField loc) := by
  cases loc with
  | none => trivial
  | some span => exact ⟨span.isPlain_toJson, trivial⟩

mutual

theorem isPlain_toJson (node : Node) : node.toJson.IsPlain := by
  cases node with
  | leaf kind text loc => exact ⟨trivial, trivial, isPlain_locField loc⟩
  | binop left operator right loc =>
      exact ⟨trivial, isPlain_toJson left, trivial, isPlain_toJson right, isPlain_locField loc⟩
  | bracket kind children loc =>
      exact ⟨trivial, arePlain_toJsonAll children, isPlain_locField loc⟩
termination_by sizeOf node

theorem arePlain_toJsonAll (nodes : List Node) : Json.ArePlain (toJsonAll nodes) := by
  cases nodes with
  | nil => trivial
  | cons node rest => exact ⟨isPlain_toJson node, arePlain_toJsonAll rest⟩
termination_by sizeOf nodes

end

end Node

/-! ## Expansions -/

/-- An expansion reads as what it is: nodes in an array make no node, since the first of them is no
    kind. -/
theorem Expansion.ofJson?_toJson (expansion : Expansion) :
    Expansion.ofJson? expansion.toJson = some expansion := by
  cases expansion with
  | node node => simp [Expansion.ofJson?, Expansion.toJson, Node.reading_toJson]
  | nodes nodes =>
      have list := Node.nodes_toJsonAll nodes
      have noNode : (Node.reading (.array (Node.toJsonAll nodes))).node = none := by
        cases nodes with
        | nil => rfl
        | cons first rest =>
            obtain ⟨fields, isObject, -⟩ := Node.toJson_eq_object first
            simp [Node.toJsonAll, Node.reading, Node.readings, Node.ofItems?, isObject,
              Node.Form.ofKind?]
      simp [Expansion.ofJson?, Expansion.toJson, list, noNode]

theorem Expansion.isPlain_toJson (expansion : Expansion) : expansion.toJson.IsPlain := by
  cases expansion with
  | node node => exact node.isPlain_toJson
  | nodes nodes => exact Node.arePlain_toJsonAll nodes

end TreeMacros
