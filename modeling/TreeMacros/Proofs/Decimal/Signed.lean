import TreeMacros.Proofs.Decimal.Sum
import TreeMacros.Proofs.Decimal.Whole

/-! # Floats with a sign

A float that is multiplied by one or by minus one keeps its magnitude, so that a sign may be read
ahead of the magnitude and put to it later.
-/

namespace TreeMacros.Binary

open Float.Model Float.Model.UnpackedFloat

/-- One with a sign. -/
def signedOne (negative : Bool) : Float :=
  if negative then -1 else 1

section Assembling

variable (negative : Bool) {bits : Nat}

theorem isNegative_withSign (fits : bits ≤ infinityBits) :
    isNegative (withSign negative bits) = negative := by
  have below : infinityBits < signBit := by decide
  rw [isNegative, toBits_withSign negative fits]
  cases negative with
  | false => exact decide_eq_false (by simp only [Bool.false_eq_true, if_false]; omega)
  | true => exact decide_eq_true (Nat.le_add_left _ _)

theorem unpack_withSign (fits : bits ≤ infinityBits) :
    (withSign negative bits).toModel.unpack = assembled (signOf negative) bits := by
  rw [unpack_eq, isNegative_withSign negative fits, magnitudeBits_withSign negative fits]

theorem isCanonical_assembled (fits : bits ≤ infinityBits) :
    IsCanonical (assembled (signOf negative) bits) := by
  rw [← unpack_withSign negative fits]
  exact isCanonical_float _

end Assembling

/-! ## Times one -/

theorem unpack_signedOne (negative : Bool) :
    (signedOne negative).toModel.unpack =
      .finite (signOf negative) (2 ^ 52) (-52) (by decide) := by
  cases negative <;> rfl

theorem sign_mul_positive (sign : Sign) : sign * .positive = sign := by
  cases sign <;> rfl

/-- The bits that one adds to a mantissa are dropped again. -/
theorem roundWithAccuracy_shifted {sign sign' : Sign} {m : Nat} {e : Int} {positive : 0 < m}
    (canonical : IsCanonical (.finite sign m e positive)) :
    roundWithAccuracy Format.binary64 sign' (2 ^ 52 * m) (-52 + e) .exact =
      .finite sign' m e positive := by
  obtain ⟨bits, least, -, digits⟩ := canonical
  have log2 : m.log2 ≤ 52 := Nat.le_of_lt_succ ((Nat.log2_lt positive.ne').mpr bits)
  have normal : 2 ^ 52 ≤ m → 52 ≤ m.log2 := (Nat.le_log2 positive.ne').mpr
  have amount : (Format.binary64.targetExponent (totalExponent (m * 2 ^ 52) (-52 + e)) -
      (-52 + e)).toNat = 52 := by
    rw [targetExponent_eq, totalExponent, log2_mul_two_pow positive.ne']
    omega
  have exponent : -52 + e + (52 : Nat) = e := by omega
  have rest : roundHalfEven (m * 2 ^ 52) (2 ^ 52) = m := by
    have scaled := roundHalfEven_mul_right (n := m) (d := 1) (Nat.two_pow_pos 52)
    rwa [Nat.one_mul, roundHalfEven_one] at scaled
  rw [Nat.mul_comm]
  unfold roundWithAccuracy
  rw [shiftToTargetExponent, shiftToExponent, amount]
  dsimp only
  rw [roundedMantissa_shiftRight, rest, exponent, shiftToTargetExponent_short bits least]
  exact dif_neg positive.ne'

theorem mul_signedOne (sign : Sign) {bits : Nat}
    (canonical : IsCanonical (assembled .positive bits)) :
    UnpackedFloat.mul Format.binary64 (.finite sign (2 ^ 52) (-52) (by decide))
      (assembled .positive bits) = assembled sign bits := by
  unfold assembled at canonical ⊢
  split
  · rfl
  · next number =>
      rw [if_neg number] at canonical
      split
      · exact congrArg UnpackedFloat.infinity (sign_mul_positive sign)
      · next finite =>
          rw [if_neg finite] at canonical
          split
          · next positive =>
              rw [dif_pos positive] at canonical
              show roundWithAccuracy _ (sign * .positive) _ _ _ = _
              rw [sign_mul_positive]
              exact roundWithAccuracy_shifted canonical
          · exact congrArg UnpackedFloat.zero (sign_mul_positive sign)

/-- A sign is put to a magnitude by multiplying. -/
theorem signedOne_mul (negative : Bool) {bits : Nat} (fits : bits ≤ infinityBits) :
    signedOne negative * withSign false bits = withSign negative bits := by
  have product : (signedOne negative * withSign false bits).toModel.unpack =
      stored (UnpackedFloat.mul Format.binary64 (signedOne negative).toModel.unpack
        (withSign false bits).toModel.unpack) := rfl
  apply eq_of_unpack
  rw [product, unpack_signedOne, unpack_withSign false fits, unpack_withSign negative fits]
  show stored (UnpackedFloat.mul _ _ (assembled .positive bits)) = _
  rw [mul_signedOne _ (isCanonical_assembled false fits)]
  exact stored_eq (isCanonical_assembled negative fits)

theorem nearest_le (numerator denominator : Nat) :
    nearest numerator denominator ≤ infinityBits := by
  unfold nearest
  split
  · exact Nat.zero_le _
  · exact Nat.min_le_right _ _

end TreeMacros.Binary
