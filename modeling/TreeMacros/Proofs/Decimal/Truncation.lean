import TreeMacros.Proofs.Decimal.Bits
import TreeMacros.Proofs.Decimal.Counting
import TreeMacros.Proofs.Decimal.Whole

/-! # Floats without their fraction

Counted in units, a float loses its fraction when it is divided by the units of one. So does an
exact binary magnitude when it is divided by its denominator, and what is left is the same.
-/

namespace TreeMacros.Binary

open Float.Model Float.Model.UnpackedFloat

variable (x : Float)

/-- A float without its fraction. NaN counts as zero, and infinity as the power of two above the
    greatest float. -/
def truncated : Int :=
  (units x).tdiv oneUnits

theorem least_le_exponent (bits : Nat) : -1074 ≤ (ofBits bits).exponent := by
  unfold ofBits
  split
  · exact Int.le_refl _
  · show (-1074 : Int) ≤ -1074 + (bits / hiddenBit - 1 : Nat)
    omega

theorem magnitude_infinityBits :
    magnitude (ofBits infinityBits).mantissa (ofBits infinityBits).exponent = infiniteUnits := by
  have parts : ofBits infinityBits = ⟨2 ^ 52, 972⟩ := by decide
  have place : 52 + ((972 : Int) + 1074).toNat = infiniteExponent := infiniteExponent_eq.symm
  rw [parts, magnitude, infiniteUnits, ← Nat.pow_add, place]

theorem natAbs_unitsOf_assembled (sign : Sign) {bits : Nat} (number : bits ≤ infinityBits) :
    (unitsOf (assembled sign bits)).natAbs =
      magnitude (ofBits bits).mantissa (ofBits bits).exponent := by
  unfold assembled
  rw [if_neg (Nat.not_lt.mpr number)]
  split
  · next infinite =>
      rw [unitsOf_infinity, natAbs_apply, infinite, magnitude_infinityBits]
  · split
    · exact natAbs_apply _ _
    · next none =>
        rw [magnitude, Nat.eq_zero_of_not_pos none, Nat.zero_mul]
        rfl

/-- Counted in units, a magnitude is divided by one as the quotient that it is. -/
theorem magnitude_div_oneUnits (m : Nat) {e : Int} (least : -1074 ≤ e) :
    magnitude m e / oneUnits = (scaled 2 m e).1 / (scaled 2 m e).2 := by
  obtain ⟨k, rfl | rfl⟩ := e.eq_nat_or_neg
  · have place : ((k : Int) + 1074).toNat = k + oneExponent := by
      rw [oneExponent_eq]
      omega
    rw [scaled_two_natCast, magnitude, place, Nat.pow_add, ← oneUnits, ← Nat.mul_assoc,
      Nat.mul_div_cancel _ oneUnits_pos, Nat.div_one]
  · obtain ⟨rest, total⟩ : ∃ rest, oneExponent = k + rest :=
      Nat.exists_eq_add_of_le (by rw [oneExponent_eq]; omega)
    have place : (-(k : Int) + 1074).toNat = rest := by
      rw [oneExponent_eq] at total
      omega
    rw [scaled_two_neg, magnitude, place, oneUnits, total, Nat.pow_add,
      Nat.mul_div_mul_right _ _ (Nat.two_pow_pos rest)]

/-- The place among `length` items that a float stands for: without its fraction, from the end if
    it is below zero, and at the nearest end if there is no such place. -/
def place (length : Nat) : Nat :=
  min (truncated x + if x < 0 then length else 0).toNat length

variable {x}

theorem isNaN_iff_not_isNumber : x.isNaN = true ↔ ¬IsNumber x := by
  show x.toModel.unpack.isNaN = true ↔ _
  rw [IsNumber, not_not]
  cases x.toModel.unpack <;> simp [UnpackedFloat.isNaN]

theorem magnitudeBits_of_isNumber (number : IsNumber x) : magnitudeBits x ≤ infinityBits :=
  Nat.le_of_not_lt fun payload => isNaN_iff_not_isNumber.mp ((isNaN_iff x).mpr payload) number

theorem truncated_of_isNaN (none : x.isNaN = true) : truncated x = 0 := by
  have unpacked : x.toModel.unpack = .notANumber := not_not.mp (isNaN_iff_not_isNumber.mp none)
  rw [truncated, units, unpacked, unitsOf, Int.zero_tdiv]

theorem wholePart_eq (number : IsNumber x) : wholePart x = (truncated x).natAbs := by
  rw [truncated, Int.natAbs_tdiv, units, unpack_eq,
    natAbs_unitsOf_assembled _ (magnitudeBits_of_isNumber number), Int.natAbs_natCast]
  exact (magnitude_div_oneUnits _ (least_le_exponent _)).symm

theorem lt_zero_iff : x < 0 ↔ IsNumber x ∧ units x < 0 := by
  have zero : (0 : Float).toModel.unpack = .zero .positive := rfl
  have none : units 0 = 0 := by rw [units, zero, unitsOf_zero]
  have number : IsNumber 0 := by simp [IsNumber, zero]
  rw [lt_iff_units, none]
  simp only [number, true_and]

/-- Without its fraction, a float is not on the other side of zero. -/
theorem truncated_sign : if x < 0 then truncated x ≤ 0 else 0 ≤ truncated x := by
  have one : (0 : Int) ≤ oneUnits := Int.natCast_nonneg _
  split
  · next below =>
      have negative : 0 ≤ -units x := by
        have less := (lt_zero_iff.mp below).2
        omega
      have quotient := Int.tdiv_nonneg negative one
      rw [Int.neg_tdiv] at quotient
      exact Int.neg_nonneg.mp quotient
  · next above =>
      by_cases number : IsNumber x
      · refine Int.tdiv_nonneg (Int.not_lt.mp fun less => above ?_) one
        exact lt_zero_iff.mpr ⟨number, less⟩
      · exact Int.le_of_eq (truncated_of_isNaN (isNaN_iff_not_isNumber.mpr number)).symm

theorem place_le (x : Float) (length : Nat) : place x length ≤ length :=
  Nat.min_le_right _ _

/-- The place of a float is what its whole part says: taken away from the length below zero. -/
theorem place_eq (x : Float) (length : Nat) :
    place x length =
      if x.isNaN then 0
      else if x < 0 then length - wholePart x
      else min (wholePart x) length := by
  have sign := truncated_sign (x := x)
  unfold place
  by_cases none : x.isNaN = true
  · have above : ¬x < 0 := fun below => isNaN_iff_not_isNumber.mp none (lt_zero_iff.mp below).1
    rw [if_neg above, if_pos none, truncated_of_isNaN none]
    exact Nat.zero_min length
  · have whole := wholePart_eq (not_not.mp (isNaN_iff_not_isNumber.not.mp none))
    rw [if_neg none, whole]
    by_cases below : x < 0
    · rw [if_pos below] at sign
      rw [if_pos below, if_pos below]
      omega
    · rw [if_neg below] at sign
      rw [if_neg below, if_neg below]
      omega

theorem place_zero (length : Nat) : place 0 length = 0 := by
  have zero : (0 : Float).toModel.unpack = .zero .positive := rfl
  have above : ¬(0 : Float) < 0 := by decide
  rw [place, if_neg above, truncated, units, zero, unitsOf_zero, Int.zero_tdiv]
  exact Nat.zero_min length

end TreeMacros.Binary
