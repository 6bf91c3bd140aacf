/-! # Places in a source text

A node may know the stretch of text it was read from. Index, line and column are words of
64 bits, as they are on the wire; nothing here computes with lines and columns.
-/

namespace TreeMacros

/-- A place in a source text. -/
structure Position where
  /-- Distance from the start of the text. -/
  index : UInt64
  line : UInt64
  column : UInt64
  deriving Repr, DecidableEq, Inhabited

/-- A stretch of source text, from `start` up to and without `stop`. -/
structure Span where
  start : Position
  stop : Position
  deriving Repr, DecidableEq, Inhabited

namespace Span

/-- How many places a span covers; none when it ends before it starts. -/
def length (span : Span) : UInt64 :=
  if span.start.index ≤ span.stop.index then span.stop.index - span.start.index else 0

/-- Whether a span covers nothing. -/
def isEmpty (span : Span) : Bool :=
  span.length == 0

/-- The span from the start of the first to the stop of the second. An absent side leaves the
    other one as it is. -/
def join : Option Span → Option Span → Option Span
  | some first, some second => some ⟨first.start, second.stop⟩
  | first, none => first
  | none, second => second

end Span

end TreeMacros
