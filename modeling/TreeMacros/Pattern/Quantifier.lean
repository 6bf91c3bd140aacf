import TreeMacros.Node.Number

/-! # Quantifiers

How many elements a run in a regular pattern may have: a count, one of three words, a range, or
any of them in parentheses.
-/

namespace TreeMacros

/-- The allowed lengths of a run; no upper bound if `max` is none. -/
structure RunBounds where
  min : Nat
  max : Option Nat
  deriving Repr, DecidableEq

namespace RunBounds

/-- Exactly `n` elements. -/
def exactly (n : Nat) : RunBounds := ⟨n, some n⟩

/-- The count that a number node gives: a finite number, rounded up, at least zero. -/
def count? (node : Node) : Option Nat :=
  node.number?.bind fun n =>
    if n.isNaN || n.isInf then none
    else if n <= 0 then some 0
    else some n.ceil.toUInt64.toNat

/-- The bounds of a word, with or without a dollar sign in front. -/
def ofWord? (word : String) : Option RunBounds :=
  match word with
  | "maybe" | "$maybe" => some ⟨0, some 1⟩
  | "some" | "$some" => some ⟨1, none⟩
  | "any" | "$any" => some ⟨0, none⟩
  | _ => none

/-- The bounds that a quantifier gives. -/
def ofNode? : Node → Option RunBounds
  | .leaf .number text loc => (count? (.leaf .number text loc)).map exactly
  | .leaf .identifier word _ => ofWord? word
  | .bracket .round [node] _ => ofNode? node
  | .binop left operator right _ =>
    if operator == ".." then do
      let min ← count? left
      let max ← count? right
      return ⟨min, some max⟩
    else none
  | _ => none

end RunBounds

end TreeMacros
