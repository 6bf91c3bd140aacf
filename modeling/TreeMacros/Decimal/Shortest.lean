import TreeMacros.Decimal.Binary

/-! # The shortest decimal that reads back

Among the decimals that round to a given float, the one with the fewest digits, and of those the
nearest. For one, two, … digits the two neighbours of the float on that decimal grid are tested;
the first grid with a hit wins, of two hits the nearer one, and the upper one of two equally near.
The text of a number is positional: it never has an exponent.
-/

namespace TreeMacros.Decimal

/-- The decimal `digits * 10 ^ exponent`. -/
structure Grid where
  digits : Nat
  exponent : Int
  deriving Repr, DecidableEq

/-- A positive float as a fraction, with the ends of the interval of reals that round to it, all
    three over the same denominator. -/
structure Target where
  low : Nat
  value : Nat
  high : Nat
  denominator : Nat
  /-- Whether the ends round to the float as well. -/
  closed : Bool

namespace Target

/-- The interval around a positive float. -/
def ofBinary (b : Binary) : Target :=
  let (unit, denominator) := Binary.scaled 2 1 (b.exponent - 2)
  { low := (4 * b.mantissa - if b.isNarrowBelow then 1 else 2) * unit
    value := 4 * b.mantissa * unit
    high := (4 * b.mantissa + 2) * unit
    denominator := denominator
    closed := b.mantissa % 2 = 0 }

/-- Whether the fraction `numerator / denominator` rounds to the float. -/
def holds (t : Target) (numerator denominator : Nat) : Bool :=
  let x := numerator * t.denominator
  let low := t.low * denominator
  let high := t.high * denominator
  if t.closed then low ≤ x && x ≤ high else low < x && x < high

/-- The place of the leading digit: the least power of ten above the float. -/
def magnitude (t : Target) : Int :=
  if t.denominator ≤ t.value then (Nat.repr (t.value / t.denominator)).length
  else
    let zeros := (List.range 330).find? fun k => t.denominator ≤ t.value * Nat.pow 10 (k + 1)
    Int.negOfNat (zeros.getD 0)

/-- The neighbour of the float on the grid with the given exponent that reads back, if there is
    one. -/
def onGrid? (t : Target) (exponent : Int) : Option Grid :=
  let (unit, parts) := Binary.scaled 10 1 exponent
  let below := t.value * parts / (t.denominator * unit)
  let hitsBelow := t.holds (below * unit) parts
  let hitsAbove := t.holds ((below + 1) * unit) parts
  let upperIsNear := t.denominator * unit * (2 * below + 1) ≤ 2 * t.value * parts
  if hitsAbove && (!hitsBelow || upperIsNear) then some ⟨below + 1, exponent⟩
  else if hitsBelow then some ⟨below, exponent⟩
  else none

/-- The shortest decimal that rounds to the float. Seventeen digits always suffice. -/
def shortest (t : Target) : Grid :=
  let magnitude := t.magnitude
  let found := (List.range 17).findSome? fun count => t.onGrid? (magnitude - (count + 1 : Nat))
  found.getD ⟨0, 0⟩

end Target

/-- Drop the zeros at the end of a list of digits. -/
def dropFinalZeros (digits : List Char) : List Char :=
  (digits.reverse.dropWhile (· == '0')).reverse

/-- A decimal in positional notation. -/
def Grid.positional (grid : Grid) : String :=
  let digits := (Nat.repr grid.digits).toList
  match grid.exponent with
  | .ofNat zeros => String.ofList (digits ++ List.replicate zeros '0')
  | .negSucc places =>
    let places := places + 1
    let padded := List.replicate (places + 1 - digits.length) '0' ++ digits
    let whole := padded.take (padded.length - places)
    let fraction := dropFinalZeros (padded.drop (padded.length - places))
    String.ofList (if fraction.isEmpty then whole else whole ++ '.' :: fraction)

/-- The names of the floats that are not finite. -/
structure NonFinite where
  nan : String
  infinity : String

/-- A float in full: the shortest decimal that reads back, with its sign, which negative zero
    has too. -/
def text (names : NonFinite) (x : Float) : String :=
  let sign := if Binary.isNegative x then "-" else ""
  if x.isNaN then names.nan
  else if x.isInf then sign ++ names.infinity
  else if x == 0 then sign ++ "0"
  else sign ++ (Target.ofBinary (Binary.ofFloat x)).shortest.positional

/-- The names that number texts use. -/
def spelledOut : NonFinite := ⟨"NaN", "Infinity"⟩

/-- The names that debug texts use. -/
def abbreviated : NonFinite := ⟨"NaN", "inf"⟩

/-- A number as programs print it. Zero has no sign. -/
def format (x : Float) : String :=
  if x == 0 then "0" else text spelledOut x

end TreeMacros.Decimal
