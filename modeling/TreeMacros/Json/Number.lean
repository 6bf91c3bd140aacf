import TreeMacros.Decimal.Reader
import TreeMacros.Json

/-! # Number literals

A whole number that fits a word of 64 bits is exact. Any other number is the float nearest to it,
and is out of range if that float is infinite. Negative zero is a float.
-/

namespace TreeMacros.Json.Number

open Decimal

/-- The parts of a number literal. -/
structure Parts where
  negative : Bool
  whole : List Char
  fraction : Option (List Char)
  exponent : Option (Bool × List Char)

/-- The parts of a text that is a number literal: no leading zero, and digits in every part. -/
def parts? (cs : List Char) : Option Parts :=
  let (negative, cs) := match cs with
    | '-' :: rest => (true, rest)
    | _ => (false, cs)
  let (whole, cs) := readDigits cs
  let (fraction, cs) := match cs with
    | '.' :: rest => let (digits, rest) := readDigits rest; (some digits, rest)
    | _ => (none, cs)
  let (exponent, cs) := match cs with
    | mark :: rest =>
      if mark == 'e' || mark == 'E' then
        let (below, rest) := readSign rest
        let (digits, rest) := readDigits rest
        (some (below, digits), rest)
      else (none, cs)
    | [] => (none, cs)
  let zeroLed := whole.head? == some '0' && whole.length != 1
  if whole.isEmpty || zeroLed || fraction == some [] || (exponent.map (·.2)) == some [] ||
      !cs.isEmpty then none
  else some ⟨negative, whole, fraction, exponent⟩

/-- The whole number that a literal is, if it has neither fraction nor exponent and fits a word,
    with the sign or without. -/
def word? (parts : Parts) : Option Int :=
  let size := natOfDigits parts.whole
  if parts.fraction.isSome || parts.exponent.isSome then none
  else if parts.negative then if 0 < size && size ≤ Nat.pow 2 63 then some (-size) else none
  else if size < Nat.pow 2 64 then some size
  else none

/-- The decimal that a literal is. -/
def literal (parts : Parts) : Literal :=
  let fraction := parts.fraction.getD []
  let exponent : Int := match parts.exponent with
    | none => 0
    | some (below, digits) => if below then -natOfDigits digits else natOfDigits digits
  ⟨parts.negative, natOfDigits (parts.whole ++ fraction), exponent - fraction.length⟩

/-- The number that a literal stands for; void if it is out of range. -/
def value (parts : Parts) : Json :=
  match word? parts with
  | some word => .int word
  | none =>
    let x := (literal parts).toFloat
    if x.isInf then .void else .float x

end TreeMacros.Json.Number
