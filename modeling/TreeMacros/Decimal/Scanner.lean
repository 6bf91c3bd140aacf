import TreeMacros.Decimal.Reader
import TreeMacros.Text.Bytes

/-! # Scanning numbers byte by byte

The number at the start of a text is found by a scan over the bytes of the text, which ends in a
place. The text is cut there, and the piece in front is converted as a whole text.
-/

namespace TreeMacros.Decimal

/-- Whether a character is a sign. -/
def isSign (c : Char) : Bool :=
  c == '+' || c == '-'

/-- Whether a character marks an exponent. -/
def isMark (c : Char) : Bool :=
  c == 'e' || c == 'E'

/-! ## Scans -/

/-- Whether there is a byte at a place that is a character of a kind. -/
def isAt (kind : Char → Bool) (bytes : List UInt8) (place : Nat) : Bool :=
  bytes[place]?.any fun b => kind (Char.ofUInt8 b)

/-- The place behind the digits that start at a place. -/
def digitsEnd (bytes : List UInt8) (place : Nat) : Nat :=
  if place < bytes.length ∧ isAt isDigit bytes place then digitsEnd bytes (place + 1) else place
termination_by bytes.length - place

/-- The place behind a sign, if there is one at a place. -/
def signEnd (bytes : List UInt8) (place : Nat) : Nat :=
  if isAt isSign bytes place then place + 1 else place

/-- How many digits there are around a point, and the place behind them. A point without digits is
    not passed. -/
def positionalEnd (bytes : List UInt8) (start : Nat) : Nat × Nat :=
  let point := digitsEnd bytes start
  if isAt (· == '.') bytes point then
    let last := digitsEnd bytes (point + 1)
    let digits := (point - start) + (last - (point + 1))
    (digits, if 0 < digits then last else point)
  else (point - start, point)

/-- The place behind an exponent. A mark without digits is not passed. -/
def exponentEnd (bytes : List UInt8) (place : Nat) : Nat :=
  if isAt isMark bytes place then
    let start := signEnd bytes (place + 1)
    let last := digitsEnd bytes start
    if start < last then last else place
  else place

/-- The place behind the numeral that the bytes start with, if there is one. -/
def numeralEnd? (bytes : List UInt8) : Option Nat :=
  let (digits, place) := positionalEnd bytes (signEnd bytes 0)
  if digits = 0 then none else some (exponentEnd bytes place)

/-! ## Selections -/

/-- What is found at the start of a text. -/
inductive Selection where
  | nothing
  | infinite (negative : Bool)
  /-- A piece of the text that is converted. -/
  | numeral (piece : List Char)
  /-- A piece of the text that is converted, and one with the sign in front of it. -/
  | digits (sign : Float) (piece : List Char)
  deriving Repr, Inhabited

namespace Selection

/-- The piece of the text that is converted. -/
def piece? : Selection → Option (List Char)
  | numeral piece | digits _ piece => some piece
  | nothing | infinite _ => none

/-- The number that a selection gives; NaN if nothing is found or its piece is not converted. -/
def value : Selection → Float
  | nothing => nan
  | infinite negative => infinity negative
  | numeral piece => (ofText? piece).getD nan
  | digits sign piece => (ofText? piece).elim nan (sign * ·)

end Selection

/-- Select the number that a text starts with. There is no result if the text is to be cut inside a
    character. -/
def selectNumber? (cs : List Char) : Option Selection :=
  let unsigned := cs.dropWhile isSign
  if infinityWord.isPrefixOf unsigned && Text.size cs - Text.size unsigned ≤ 1 then
    some (.infinite (cs.head? == some '-'))
  else
    match numeralEnd? (Text.bytes cs) with
    | some place => (Text.cut? cs place).map fun (piece, _) => .numeral piece
    | none => some .nothing

/-- The text behind an optional sign, where it is cut. -/
def unsigned? (cs : List Char) : Option (List Char) :=
  if isAt isSign (Text.bytes cs) 0 then (Text.cut? cs 1).map (·.2) else some cs

/-- Select the integer that a text starts with. There is no result if the text is to be cut inside
    a character. -/
def selectInteger? (cs : List Char) : Option Selection := do
  let sign := if isAt (· == '-') (Text.bytes cs) 0 then -1 else 1
  let unsigned ← unsigned? cs
  let place := Text.size (unsigned.takeWhile isDigit)
  if place = 0 then return .nothing
  let (piece, _) ← Text.cut? unsigned place
  return .digits sign piece

end TreeMacros.Decimal
