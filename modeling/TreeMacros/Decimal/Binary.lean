/-! # Floats as exact binary numbers

A finite float is a sign and a magnitude `mantissa * 2 ^ exponent`. `Binary.ofFloat` reads the
magnitude off the bits; `Binary.nearest` goes the other way and rounds a quotient of naturals to
the nearest float, half-way cases to the even mantissa. Both use whole numbers only.
-/

namespace TreeMacros

/-- The exact magnitude `mantissa * 2 ^ exponent` of a finite float. -/
structure Binary where
  mantissa : Nat
  exponent : Int
  deriving Repr, DecidableEq

namespace Binary

/-- The least exponent of a float; subnormal numbers have it. -/
def leastExponent : Int := -1074

/-- The mantissa of a normal float is at least this. -/
def hiddenBit : Nat := Nat.pow 2 52

/-- The bit that is set below zero. -/
def signBit : Nat := Nat.pow 2 63

/-- The bits of positive infinity. -/
def infinityBits : Nat := 2047 * hiddenBit

/-- The bits without the sign. -/
def magnitudeBits (x : Float) : Nat :=
  x.toBits.toNat % signBit

/-- Whether the sign bit is set; so it is for negative zero. -/
def isNegative (x : Float) : Bool :=
  signBit ≤ x.toBits.toNat

/-- The magnitude of a finite float. -/
def ofFloat (x : Float) : Binary :=
  let bits := magnitudeBits x
  let field := bits / hiddenBit
  if field = 0 then ⟨bits, leastExponent⟩
  else ⟨bits % hiddenBit + hiddenBit, leastExponent + (field - 1 : Nat)⟩

/-- Whether the float below has a smaller distance than the float above. -/
def isNarrowBelow (b : Binary) : Bool :=
  b.mantissa = hiddenBit && leastExponent < b.exponent

/-- The float with the given sign and magnitude bits. -/
def withSign (negative : Bool) (bits : Nat) : Float :=
  Float.ofBits (UInt64.ofNat (if negative then bits + signBit else bits))

/-- A natural scaled by a power of `base`, split into the factors above and below the line. -/
def scaled (base n : Nat) (exponent : Int) : Nat × Nat :=
  match exponent with
  | .ofNat e => (n * Nat.pow base e, 1)
  | .negSucc e => (n, Nat.pow base (e + 1))

/-- The quotient rounded to the nearest natural, half-way cases to the even one. -/
def roundHalfEven (numerator denominator : Nat) : Nat :=
  let quotient := numerator / denominator
  let remainder := numerator % denominator
  if 2 * remainder < denominator then quotient
  else if denominator < 2 * remainder then quotient + 1
  else if quotient % 2 = 0 then quotient else quotient + 1

/-- The magnitude bits of the float nearest to `numerator / denominator`. A quotient half a step
    beyond the greatest float or more is infinite. -/
def nearest (numerator denominator : Nat) : Nat :=
  if numerator = 0 then 0
  else
    let size : Int := numerator.log2 - denominator.log2
    let (above, below) := scaled 2 1 size
    let exponent := if numerator * below < denominator * above then size - 53 else size - 52
    let exponent := max exponent leastExponent
    let (above, below) := scaled 2 1 exponent
    let bits := (exponent - leastExponent).toNat * hiddenBit +
      roundHalfEven (numerator * below) (denominator * above)
    min bits infinityBits

/-- The float nearest to a whole number. -/
def ofInt (n : Int) : Float :=
  withSign (n < 0) (nearest n.natAbs 1)

/-- The whole number that a float is, if it is one. -/
def whole? (x : Float) : Option Int :=
  if x.isNaN || x.isInf then none
  else
    let b := ofFloat x
    let (above, below) := scaled 2 b.mantissa b.exponent
    if above % below = 0 then
      let n : Int := (above / below : Nat)
      some (if isNegative x then -n else n)
    else none

/-- The greatest natural that is not above the magnitude of a float. Infinity counts as the power
    of two above the greatest float, and NaN as some natural. -/
def wholePart (x : Float) : Nat :=
  let b := ofFloat x
  let (above, below) := scaled 2 b.mantissa b.exponent
  above / below

/-- How two floats compare, if neither is NaN. -/
def compare? (x y : Float) : Option Ordering :=
  if x < y then some .lt
  else if x == y then some .eq
  else if y < x then some .gt
  else none

/-- The remainder of a division that rounds toward zero. It has the sign of the dividend and is
    always exact. -/
def remainder (x y : Float) : Float :=
  if x.isNaN || y.isNaN || x.isInf || y == 0 then 0 / 0
  else if y.isInf then x
  else
    let a := ofFloat x
    let b := ofFloat y
    let exponent := min a.exponent b.exponent
    let rest := a.mantissa * Nat.pow 2 (a.exponent - exponent).toNat %
      (b.mantissa * Nat.pow 2 (b.exponent - exponent).toNat)
    let (above, below) := scaled 2 rest exponent
    withSign (isNegative x) (nearest above below)

end Binary

end TreeMacros
