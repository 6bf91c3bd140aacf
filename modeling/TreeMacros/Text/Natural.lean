import TreeMacros.Decimal.Reader

/-! # Words as text

A word of 64 bits as digits, with an optional plus in front. There are no other signs, no blanks
and no separators.
-/

namespace TreeMacros.Text

/-- The word that a text stands for. -/
def word? (s : String) : Option Nat :=
  let digits := match s.toList with
    | '+' :: rest => rest
    | cs => cs
  if digits.isEmpty || !digits.all Decimal.isDigit then none
  else
    let n := Decimal.natOfDigits digits
    if n < Nat.pow 2 64 then some n else none

end TreeMacros.Text
