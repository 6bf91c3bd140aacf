import TreeMacros.Pattern.Bindings
import TreeMacros.Pattern.Expression
import TreeMacros.Pattern.Quantifier
import TreeMacros.Pattern.TypeName
import TreeMacros.Text.Natural

/-! # Patterns

A node used as a pattern means a `Matcher`: from a datum and the bindings so far to the bindings
of a match, or nothing. The meaning of a node is put together from the meanings of its parts, so
matching is a recursion on the pattern. A `Hook` may take over any form it claims; it gets the
form with the meanings of its parts.
-/

namespace TreeMacros

/-- What a pattern means. -/
abbrev Matcher := Datum → Bindings → Option Bindings

/-- A node with the meaning it has as a pattern, and its parts: the children of a bracket, or the
    two operands of an operation. -/
inductive Pattern where
  | mk (form : Node) (matcher : Matcher) (parts : List Pattern)

namespace Pattern

def form : Pattern → Node
  | mk form _ _ => form

def matcher : Pattern → Matcher
  | mk _ matcher _ => matcher

def parts : Pattern → List Pattern
  | mk _ _ parts => parts

/-- Whether a datum matches the pattern by itself. Bindings that it makes are lost. -/
def accepts (pattern : Pattern) (datum : Datum) : Bool :=
  (pattern.matcher datum []).isSome

end Pattern

/-- A pattern form that the host supplies. -/
structure Hook where
  name : String
  /-- Whether the hook takes over a node. -/
  claims : Node → Bool
  /-- What a claimed node means, given its parts. -/
  matcher : Node → List Pattern → Matcher

namespace Matcher

/-- The bindings as they are, if a condition holds. -/
def test (condition : Datum → Bool) : Matcher :=
  fun datum env => if condition datum then some env else none

/-- The first alternative that matches. -/
def firstOf (alternatives : List Matcher) : Matcher :=
  fun datum env => alternatives.findSome? fun matcher => matcher datum env

/-- One matcher, then another one with the bindings of the first. -/
def both (first second : Matcher) : Matcher :=
  fun datum env => (first datum env).bind fun env => second datum env

/-- A matcher whose datum is bound to a name. -/
def bind (name : String) (matcher : Matcher) : Matcher :=
  fun datum env => (matcher datum env).map fun env => env.insert name datum

/-- Each matcher on its own item, of as many items as there are matchers. -/
def each : List Matcher → List Datum → Bindings → Option Bindings
  | [], [], env => some env
  | matcher :: matchers, item :: items, env =>
    (matcher item env).bind fun env => each matchers items env
  | _, _, _ => none

/-- A list, item by item. -/
def items (matchers : List Matcher) : Matcher :=
  fun datum env => datum.list?.bind fun items => each matchers items env

end Matcher

/-! ## Regular patterns -/

/-- A part of a regular pattern. -/
inductive RegularPart where
  /-- Whatever remains; parts after it are ignored. -/
  | rest
  /-- A run of elements. Without bounds it matches nothing. -/
  | run (bounds : Option RunBounds) (accepts : Datum → Bool)
  /-- One element. -/
  | one (accepts : Datum → Bool)

namespace RegularPart

/-- What a pattern means as a part of a regular pattern. -/
def ofPattern (pattern : Pattern) : RegularPart :=
  if pattern.form.isIdent "$rest" then rest
  else
    match pattern.form, pattern.parts with
    | .binop left operator _ _, [_, repeated] =>
      if operator == "*" then run (RunBounds.ofNode? left) repeated.accepts
      else one pattern.accepts
    | _, _ => one pattern.accepts

/-- The lengths that a run at the start of a list may have, the shortest first. -/
def runLengths (bounds : RunBounds) (accepts : Datum → Bool) (items : List Datum) : List Nat :=
  let longest := (items.takeWhile accepts).length
  let longest := bounds.max.elim longest (min longest)
  (List.range (longest + 1)).drop bounds.min

/-- Whether a list splits into elements for each of the parts. -/
def search : List RegularPart → List Datum → Bool
  | [], items => items.isEmpty
  | rest :: _, _ => true
  | run none _ :: _, _ => false
  | run (some bounds) accepts :: parts, items =>
    (runLengths bounds accepts items).any fun count => search parts (items.drop count)
  | one accepts :: parts, items =>
    match items with
    | [] => false
    | item :: items => accepts item && search parts items

end RegularPart

/-- A regular pattern over the elements of a list. -/
def Matcher.regular (parts : List Pattern) : Matcher :=
  Matcher.test fun datum =>
    match datum.list? with
    | some items => RegularPart.search (parts.map RegularPart.ofPattern) items
    | none => false

/-! ## Type forms -/

/-- The groups of a type form. -/
inductive FieldGroup where
  | positional (patterns : List Pattern)
  | keywords (patterns : List (String × Pattern))

namespace FieldGroup

/-- A name and the pattern of the field with that name. -/
def keyword? (pattern : Pattern) : Option (String × Pattern) :=
  match pattern.form, pattern.parts with
  | .binop left operator _ _, [_, right] =>
    if operator == "=" then left.ident?.map (·, right) else none
  | _, _ => none

/-- Whether a pattern is an assignment, of whatever to whatever. -/
def isAssignment (pattern : Pattern) : Bool :=
  match pattern.form with
  | .binop _ operator _ _ => operator == "="
  | _ => false

/-- The group that a square bracket is. Names and positions do not mix; an empty bracket names
    nothing. -/
def ofPattern? (pattern : Pattern) : Option FieldGroup :=
  if pattern.form.bracket? == some .square then
    match pattern.parts.mapM keyword? with
    | some entries => some (keywords entries)
    | none => if pattern.parts.any isAssignment then none else some (positional pattern.parts)
  else none

/-- The fields of the keyword groups. -/
def keywordsOf : FieldGroup → List (String × Pattern)
  | keywords entries => entries
  | positional _ => []

/-- The patterns of a positional group. -/
def positional? : FieldGroup → Option (List Pattern)
  | positional patterns => some patterns
  | keywords _ => none

end FieldGroup

namespace Datum

/-- The names of the parts of a datum by position; a list counts its items. -/
def positionalNames : Datum → List String
  | object traits fields => positionalFields traits fields
  | list items => (List.range items.length).map Nat.repr
  | _ => []

/-- A part by name; a list has its items under their numbers. What is missing is null. -/
def part (datum : Datum) (name : String) : Datum :=
  match datum, Text.word? name with
  | list items, some index => items.getD index null
  | _, _ => datum.member name

end Datum

/-- Whether the fields of a datum match the groups of a type form. At most one group may be
    positional, and it may not have more patterns than there are positions. -/
def FieldGroup.accept (groups : List FieldGroup) (env : Bindings) (datum : Datum) : Bool :=
  let accepts := fun (field : String × Pattern) =>
    (field.2.matcher (datum.part field.1) env).isSome
  (groups.flatMap keywordsOf).all accepts &&
    match groups.filterMap positional? with
    | [] => true
    | [patterns] =>
      patterns.length ≤ datum.positionalNames.length &&
        (datum.positionalNames.zip patterns).all accepts
    | _ => false

/-- A type form: the name of a type and groups of fields. A datum without parts has no fields, so
    its groups are not looked at. The bindings that fields make are lost. -/
def Matcher.typeForm (parts : List Pattern) : Matcher :=
  fun datum env =>
    match parts with
    | [] => none
    | name :: groups => do
      let typeName ← name.form.ident?
      if !datum.hasType typeName then none
      else if !datum.isCompound then some env
      else
        let groups ← groups.mapM FieldGroup.ofPattern?
        if FieldGroup.accept groups env datum then some env else none

/-! ## The meaning of nodes -/

namespace Matcher

/-- The meaning of a leaf: a literal, or one of two names that stand for more. -/
def leaf (kind : LeafKind) (text : String) : Matcher :=
  test fun datum =>
    match kind with
    | .identifier =>
      match text with
      | "_" => true
      | "$" => datum.isTruthy
      | "true" => datum.equal (.bool true)
      | "false" => datum.equal (.bool false)
      | "null" => datum.isNull
      | other => datum.string? == some other
    | .string => datum.string? == some text
    | .number => datum.number?.any (· == Decimal.ofText text)
    | .operator => false

/-- The meaning of an operation. What is no pattern form is an expression. -/
def operation (node : Node) (left : Pattern) (operator : String) (right : Pattern) : Matcher :=
  let expression := test fun datum => (node.evalWith datum).isTruthy
  match operator with
  | "|" => firstOf [left.matcher, right.matcher]
  | "&" => both left.matcher right.matcher
  | ":" =>
    match left.form.isIdent "_", right.form.ident? with
    | true, some typeName => test fun datum => datum.hasType typeName
    | _, _ => expression
  | "=" =>
    match left.form.ident? with
    | some name => bind name right.matcher
    | none => fun _ _ => none
  | _ => expression

/-- The meaning of a bracket. -/
def bracket (kind : Bracket) (children : List Pattern) : Matcher :=
  match kind, children with
  | .round, [] => test Datum.isNull
  | .round, [child] => child.matcher
  | .round, children => firstOf (children.map Pattern.matcher)
  | .square, children => items (children.map Pattern.matcher)
  | .curly, head :: parts =>
    match head.form.ident? with
    | some "$r" => regular parts
    | some "$type" => typeForm parts
    | _ => fun _ _ => none
  | .curly, [] | .sequence, _ => fun _ _ => none

/-- The meaning that the first of the hooks which claims a node gives it, or else its own. -/
def hooked (hooks : List Hook) (node : Node) (parts : List Pattern) (own : Matcher) : Matcher :=
  match hooks.find? fun hook => hook.claims node with
  | some hook => hook.matcher node parts
  | none => own

end Matcher

namespace Node

mutual

/-- The pattern that a node is, under the given hooks. -/
def toPattern (hooks : List Hook) : Node → Pattern
  | leaf kind text loc =>
    let node := leaf kind text loc
    .mk node (Matcher.hooked hooks node [] (Matcher.leaf kind text)) []
  | binop left operator right loc =>
    let node := binop left operator right loc
    let l := left.toPattern hooks
    let r := right.toPattern hooks
    .mk node (Matcher.hooked hooks node [l, r] (Matcher.operation node l operator r)) [l, r]
  | bracket kind children loc =>
    let node := bracket kind children loc
    let parts := toPatterns hooks children
    .mk node (Matcher.hooked hooks node parts (Matcher.bracket kind parts)) parts

/-- The patterns that nodes are. -/
def toPatterns (hooks : List Hook) : List Node → List Pattern
  | [] => []
  | node :: rest => node.toPattern hooks :: toPatterns hooks rest

end

end Node

/-- Hooks, the one registered last first. -/
structure PatternMatcher where
  hooks : List Hook := []

namespace PatternMatcher

/-- Add a hook ahead of all others. -/
def register (matcher : PatternMatcher) (hook : Hook) : PatternMatcher :=
  ⟨hook :: matcher.hooks⟩

/-- Drop all hooks. -/
def clear (_ : PatternMatcher) : PatternMatcher :=
  ⟨[]⟩

/-- Match a datum against a pattern, given bindings. -/
def bindings? (matcher : PatternMatcher) (datum : Datum) (pattern : Node) (env : Bindings) :
    Option Bindings :=
  (pattern.toPattern matcher.hooks).matcher datum env

/-- Whether a datum matches a pattern. -/
def accepts (matcher : PatternMatcher) (datum : Datum) (pattern : Node) : Bool :=
  (matcher.bindings? datum pattern []).isSome

end PatternMatcher

end TreeMacros
