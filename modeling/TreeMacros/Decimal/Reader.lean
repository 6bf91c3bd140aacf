import TreeMacros.Decimal.Binary
import TreeMacros.Text.Blank

/-! # Reading numbers

A decimal literal is a sign, digits with a point among them, and an exponent. `leading?` reads
the longest literal at the start of a text; from it come the reader of whole texts and the
readers of numeric prefixes. `toFloat` is correctly rounded.
-/

namespace TreeMacros.Decimal

/-- The decimal `± digits * 10 ^ exponent`. -/
structure Literal where
  negative : Bool
  digits : Nat
  exponent : Int
  deriving Repr, DecidableEq

/-- Whether a character is one of the ten ASCII digits. -/
def isDigit (c : Char) : Bool :=
  '0' ≤ c && c ≤ '9'

/-- The number that ASCII digits stand for. -/
def natOfDigits (digits : List Char) : Nat :=
  digits.foldl (fun n c => 10 * n + (c.toNat - 48)) 0

/-- The float nearest to a literal. Beyond three hundred and thirty places nothing but zero and
    infinity is left, so the powers of ten stay small. -/
def Literal.toFloat (l : Literal) : Float :=
  let size : Int := (Nat.repr l.digits).length + l.exponent
  if l.digits = 0 || size < -330 then Binary.withSign l.negative 0
  else if 330 < size then Binary.withSign l.negative Binary.infinityBits
  else
    let (above, below) := Binary.scaled 10 l.digits l.exponent
    Binary.withSign l.negative (Binary.nearest above below)

/-! ## The parts of a literal -/

/-- An optional sign: whether it is a minus, and the rest. -/
def readSign : List Char → Bool × List Char
  | '-' :: rest => (true, rest)
  | '+' :: rest => (false, rest)
  | cs => (false, cs)

/-- The digits at the start of a text, and the rest. -/
def readDigits (cs : List Char) : List Char × List Char :=
  (cs.takeWhile isDigit, cs.dropWhile isDigit)

/-- The digits after a point, if there is a point, and the rest. -/
def readFraction : List Char → List Char × List Char
  | '.' :: rest => readDigits rest
  | cs => ([], cs)

/-- An optional exponent. A mark without digits is not one and is left in the rest. -/
def readExponent (cs : List Char) : Int × List Char :=
  match cs with
  | mark :: after =>
    if mark == 'e' || mark == 'E' then
      let (negative, after) := readSign after
      let (digits, rest) := readDigits after
      if digits.isEmpty then (0, cs)
      else
        let size : Int := natOfDigits digits
        (if negative then -size else size, rest)
    else (0, cs)
  | [] => (0, cs)

/-- The longest literal at the start of a text, and the rest. It has at least one digit before
    its exponent. -/
def leading? (cs : List Char) : Option (Literal × List Char) :=
  let (negative, cs) := readSign cs
  let (whole, cs) := readDigits cs
  let (fraction, rest) := readFraction cs
  if whole.isEmpty && fraction.isEmpty then none
  else
    let (exponent, rest) := readExponent rest
    some (⟨negative, natOfDigits (whole ++ fraction), exponent - fraction.length⟩, rest)

/-! ## Whole texts and prefixes -/

/-- Not a number. -/
def nan : Float := 0 / 0

/-- Infinity with the given sign. -/
def infinity (negative : Bool) : Float :=
  Binary.withSign negative Binary.infinityBits

/-- A number that fills the whole text: a literal, or a name of infinity or of NaN with an
    optional sign, in any case of letters. -/
def ofText? (cs : List Char) : Option Float :=
  let (negative, unsigned) := readSign cs
  let name := String.ofList (unsigned.map Char.toLower)
  if name == "inf" || name == "infinity" then some (infinity negative)
  else if name == "nan" then some nan
  else
    match leading? cs with
    | some (literal, []) => some literal.toFloat
    | _ => none

/-- The number that a text stands for. White space around it is ignored; an empty text is zero
    and an unreadable one is NaN. -/
def ofText (s : String) : Float :=
  let cs := Text.trim s.toList
  if cs.isEmpty then 0 else (ofText? cs).getD nan

/-- The integer at the start of a text, NaN if there is none. -/
def integerPrefix (s : String) : Float :=
  let (negative, cs) := readSign (Text.trimStart s.toList)
  let (digits, _) := readDigits cs
  if digits.isEmpty then nan else Literal.toFloat ⟨negative, natOfDigits digits, 0⟩

/-- The word that stands for infinity in number texts. -/
def infinityWord : List Char := "Infinity".toList

/-- The number at the start of a text: infinity with an optional sign, or the longest literal;
    NaN if there is none. -/
def numberPrefix (s : String) : Float :=
  let cs := Text.trimStart s.toList
  let (negative, unsigned) := readSign cs
  if infinityWord.isPrefixOf unsigned then infinity negative
  else
    match leading? cs with
    | some (literal, _) => literal.toFloat
    | none => nan

end TreeMacros.Decimal
