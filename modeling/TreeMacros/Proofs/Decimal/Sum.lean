import TreeMacros.Proofs.Decimal.Units

/-! # Sums of floats

The units of a sum of floats are the sum of their units, rounded to 53 significant bits. Rounding
takes two steps: bits are dropped as the exponent demands, and once more if the rounded mantissa
has become too long.
-/

namespace TreeMacros.Binary

open Float.Model Float.Model.UnpackedFloat

/-- A whole number of units rounded to 53 significant bits. It may be infinite. -/
def nearestUnits (n : Int) : Int :=
  n.sign * (min (rounded n.natAbs) infiniteUnits : Nat)

/-! ## Shifting -/

theorem shiftRight_succ (m k : Nat) :
    ExtendedMantissa.ofMantissaAndAccuracy m .exact >>> (k + 1) =
      ⟨m / 2 ^ (k + 1), m / 2 ^ k % 2 != 0, m % 2 ^ k != 0⟩ := by
  induction k with
  | zero => simp [HShiftRight.hShiftRight, Nat.repeat, ExtendedMantissa.shiftRightOne,
      ExtendedMantissa.ofMantissaAndAccuracy, Nat.mod_one]
  | succ k ih =>
      show ExtendedMantissa.shiftRightOne
        (ExtendedMantissa.ofMantissaAndAccuracy m .exact >>> (k + 1)) = _
      rw [ih, ExtendedMantissa.shiftRightOne]
      congr 1
      · rw [Nat.div_div_eq_div_mul, ← Nat.pow_succ]
      · have digits : m % 2 ^ (k + 1) = m % 2 ^ k + 2 ^ k * (m / 2 ^ k % 2) := Nat.mod_pow_succ
        have power := Nat.two_pow_pos k
        rw [Bool.eq_iff_iff]
        simp only [Bool.or_eq_true, bne_iff_ne, ne_eq, digits, Nat.add_eq_zero_iff,
          Nat.mul_eq_zero, Nat.ne_of_gt power, false_or]
        tauto

/-- To drop bits and to round by what they were is to round the quotient. -/
theorem roundedMantissa_shiftRight (m k : Nat) :
    (ExtendedMantissa.ofMantissaAndAccuracy m .exact >>> k).roundedMantissa =
      roundHalfEven m (2 ^ k) := by
  cases k with
  | zero =>
      show m = roundHalfEven m 1
      simp [roundHalfEven, Nat.mod_one]
  | succ k =>
      have digits : m % 2 ^ (k + 1) = m % 2 ^ k + 2 ^ k * (m / 2 ^ k % 2) := Nat.mod_pow_succ
      have power : 2 ^ (k + 1) = 2 * 2 ^ k := Nat.pow_succ'
      have less := Nat.mod_lt m (Nat.two_pow_pos k)
      rw [shiftRight_succ]
      unfold roundHalfEven
      dsimp only
      rw [digits]
      obtain bit | bit := Nat.mod_two_eq_zero_or_one (m / 2 ^ k)
      · rw [bit, if_pos (by omega)]
        cases rest : m % 2 ^ k != 0 <;> rfl
      · rw [bit, if_neg (by omega)]
        cases rest : m % 2 ^ k != 0 with
        | true =>
            have positive : m % 2 ^ k ≠ 0 := by simpa using rest
            rw [if_pos (by omega)]
            rfl
        | false =>
            have exact : m % 2 ^ k = 0 := by simpa using rest
            rw [if_neg (by omega)]
            show m / 2 ^ (k + 1) + m / 2 ^ (k + 1) % 2 = _
            split <;> omega

/-! ## Rounding -/

theorem targetExponent_eq (total : Int) :
    Format.binary64.targetExponent total = max (total - 53) (-1074) := by
  simp only [Format.targetExponent]
  rfl

theorem log2_magnitude {m : Nat} (positive : 0 < m) (e : Int) :
    (magnitude m e).log2 = m.log2 + (e + 1074).toNat :=
  log2_mul_two_pow (Nat.ne_of_gt positive) _

/-- The exponent that a float is rounded to is that of the spacing around its magnitude. -/
theorem targetExponent_magnitude {m : Nat} {e : Int} (positive : 0 < m) (least : -1074 ≤ e) :
    Format.binary64.targetExponent (totalExponent m e) =
      ((magnitude m e).log2 - 52 : Nat) - 1074 := by
  rw [targetExponent_eq, totalExponent, log2_magnitude positive]
  omega

/-- At 53 bits, nothing is left to drop. -/
theorem shiftToTargetExponent_short {m : Nat} {e : Int} (bits : m < 2 ^ 53) (least : -1074 ≤ e) :
    shiftToTargetExponent Format.binary64 m e .exact = (⟨m, false, false⟩, e) := by
  have log2 : m.log2 ≤ 52 := by
    by_cases zero : m = 0
    · subst zero
      simp
    · exact Nat.le_of_lt_succ ((Nat.log2_lt zero).mpr bits)
  have none : (Format.binary64.targetExponent (totalExponent m e) - e).toNat = 0 := by
    rw [targetExponent_eq, totalExponent]
    omega
  rw [shiftToTargetExponent, shiftToExponent, none]
  exact Prod.ext rfl (Int.add_zero e)

/-- A mantissa that rounding has carried to 54 bits is halved. -/
theorem shiftToTargetExponent_carry {e : Int} (least : -1074 ≤ e) :
    shiftToTargetExponent Format.binary64 (2 ^ 53) e .exact = (⟨2 ^ 52, false, false⟩, e + 1) := by
  have one : (Format.binary64.targetExponent (totalExponent (2 ^ 53) e) - e).toNat = 1 := by
    rw [targetExponent_eq, totalExponent, Nat.log2_two_pow]
    omega
  rw [shiftToTargetExponent, shiftToExponent, one]
  rfl

/-- The float has a rounded magnitude and stands as it is unpacked, but its exponent may be too
    large. -/
def IsRoundingOf (sign : Sign) (n : Nat) (x : UnpackedFloat) : Prop :=
  ∃ (m : Nat) (e : Int) (positive : 0 < m), x = .finite sign m e positive ∧
    magnitude m e = rounded n ∧ m < 2 ^ 53 ∧ -1074 ≤ e ∧ (2 ^ 52 ≤ m ∨ e = -1074)

/-- To round a mantissa at the right bit is to round the magnitude. -/
theorem roundHalfEven_magnitude {m dropped : Nat} {e : Int}
    (place : (magnitude m e).log2 - 52 = (e + 1074).toNat + dropped) :
    roundHalfEven m (2 ^ dropped) = significand (magnitude m e) := by
  have scale : spacing (magnitude m e) = 2 ^ dropped * 2 ^ (e + 1074).toNat := by
    rw [spacing, place, Nat.pow_add, Nat.mul_comm]
  rw [significand, scale, magnitude, roundHalfEven_mul_right (Nat.two_pow_pos _)]

/-- What is rounded at its target exponent or below it is rounded to 53 significant bits. -/
theorem isRoundingOf_roundWithAccuracy {m : Nat} {e : Int} (sign : Sign) (positive : 0 < m)
    (least : -1074 ≤ e) (below : e ≤ Format.binary64.targetExponent (totalExponent m e)) :
    IsRoundingOf sign (magnitude m e) (roundWithAccuracy Format.binary64 sign m e .exact) := by
  have target := targetExponent_magnitude positive least
  rw [target] at below
  obtain ⟨dropped, place⟩ := Nat.exists_eq_add_of_le
    (show (e + 1074).toNat ≤ (magnitude m e).log2 - 52 by omega)
  have amount : (((magnitude m e).log2 - 52 : Nat) - 1074 - e : Int).toNat = dropped := by omega
  have scale : (e + dropped + 1074).toNat = (magnitude m e).log2 - 52 := by omega
  have bits : 2 ^ 52 ≤ significand (magnitude m e) ∨ e + dropped = -1074 := by
    by_cases large : 52 ≤ (magnitude m e).log2
    · exact .inl (le_significand large)
    · exact .inr (by omega)
  have nonzero := significand_pos (Nat.ne_of_gt (magnitude_pos (e := e) positive))
  unfold roundWithAccuracy
  rw [shiftToTargetExponent, shiftToExponent, target, amount]
  dsimp only
  rw [roundedMantissa_shiftRight, roundHalfEven_magnitude place]
  obtain short | carry := Nat.lt_or_eq_of_le (significand_le (magnitude m e))
  · rw [shiftToTargetExponent_short short (by omega)]
    dsimp only
    rw [dif_neg (Nat.ne_of_gt nonzero)]
    refine ⟨_, e + dropped, nonzero, rfl, ?_, short, by omega, bits⟩
    rw [magnitude, scale, rounded, spacing]
  · rw [carry, shiftToTargetExponent_carry (by omega)]
    dsimp only
    rw [dif_neg (by norm_num)]
    refine ⟨2 ^ 52, e + dropped + 1, by norm_num, rfl, ?_, by norm_num, by omega,
      .inl (Nat.le_refl _)⟩
    have scale' : (e + dropped + 1 + 1074).toNat = 1 + ((magnitude m e).log2 - 52) := by omega
    rw [magnitude, scale', rounded, carry, spacing, Nat.pow_add, ← Nat.mul_assoc, ← Nat.pow_succ]

/-- To decrease the exponent of a float is to write it with more digits. -/
theorem magnitude_decreaseExponent (m : Nat) (e : Int) {target : Int} (least : -1074 ≤ target) :
    magnitude (decreaseExponent m e target).1 (decreaseExponent m e target).2 = magnitude m e := by
  simp only [decreaseExponent, magnitude, Nat.shiftLeft_eq, Nat.mul_assoc, ← Nat.pow_add]
  congr 2
  omega

theorem isRoundingOf_round {m : Nat} {e : Int} (sign : Sign) (positive : 0 < m)
    (least : -1074 ≤ e) :
    IsRoundingOf sign (magnitude m e) (UnpackedFloat.round Format.binary64 sign m e) := by
  have target := targetExponent_magnitude positive least
  obtain ⟨t, isTarget⟩ : ∃ t, t = Format.binary64.targetExponent (totalExponent m e) := ⟨_, rfl⟩
  have leastTarget : -1074 ≤ t := by omega
  have same := magnitude_decreaseExponent m e leastTarget
  have positive' : 0 < (decreaseExponent m e t).1 := by
    rw [decreaseExponent, Nat.shiftLeft_eq]
    exact Nat.mul_pos positive (Nat.two_pow_pos _)
  have least' : -1074 ≤ (decreaseExponent m e t).2 := by
    rw [decreaseExponent]
    omega
  have below : (decreaseExponent m e t).2 ≤ Format.binary64.targetExponent
      (totalExponent (decreaseExponent m e t).1 (decreaseExponent m e t).2) := by
    rw [targetExponent_magnitude positive' least', same, ← target, ← isTarget, decreaseExponent]
    omega
  unfold UnpackedFloat.round
  dsimp only
  rw [← isTarget, ← same]
  exact isRoundingOf_roundWithAccuracy sign positive' least' below

/-! ## Stored floats -/

theorem isPrecise_magnitude {sign : Sign} {m : Nat} {e : Int} {positive : 0 < m}
    (canonical : IsCanonical (.finite sign m e positive)) : IsPrecise (magnitude m e) := by
  obtain ⟨bits, -, -, -⟩ := canonical
  have log2 : m.log2 ≤ 52 := Nat.le_of_lt_succ ((Nat.log2_lt (Nat.ne_of_gt positive)).mpr bits)
  have power : 2 ^ ((magnitude m e).log2 - 52) ∣ 2 ^ (e + 1074).toNat := by
    rw [log2_magnitude positive]
    exact Nat.pow_dvd_pow 2 (by omega)
  exact Nat.dvd_trans power (Nat.dvd_mul_left _ _)

@[simp] theorem nearestUnits_zero : nearestUnits 0 = 0 := by
  simp [nearestUnits]

theorem nearestUnits_apply (sign : Sign) (n : Nat) :
    nearestUnits (sign.apply n) = sign.apply (min (rounded n) infiniteUnits : Nat) := by
  have zero : rounded 0 = 0 := rfl
  by_cases isZero : n = 0
  · subst isZero
    cases sign <;> simp [nearestUnits, Sign.apply, zero]
  · cases sign with
    | negative =>
        rw [nearestUnits, Sign.apply, Sign.apply, Int.natAbs_neg, Int.natAbs_natCast, Int.sign_neg,
          Int.sign_natCast_of_ne_zero isZero]
        omega
    | positive =>
        rw [nearestUnits, Sign.apply, Sign.apply, Int.natAbs_natCast,
          Int.sign_natCast_of_ne_zero isZero]
        omega

/-- The units of a float need no rounding. -/
theorem nearestUnits_unitsOf {x : UnpackedFloat} (canonical : IsCanonical x) :
    nearestUnits (unitsOf x) = unitsOf x := by
  cases x with
  | notANumber | zero => exact nearestUnits_zero
  | infinity sign =>
      rw [unitsOf, nearestUnits_apply, isPrecise_infiniteUnits.rounded_eq, Nat.min_self]
  | finite sign m e positive =>
      rw [unitsOf, nearestUnits_apply, (isPrecise_magnitude canonical).rounded_eq,
        Nat.min_eq_left (Nat.le_of_lt (magnitude_lt_infiniteUnits canonical))]

/-- A float is read back as a number with so many units when it has been stored. -/
def StoresAs (x : UnpackedFloat) (n : Int) : Prop :=
  stored x ≠ .notANumber ∧ unitsOf (stored x) = n

theorem storesAs_of_canonical {x : UnpackedFloat} (canonical : IsCanonical x)
    (number : x ≠ .notANumber) : StoresAs x (nearestUnits (unitsOf x)) := by
  rw [StoresAs, stored_eq canonical, nearestUnits_unitsOf canonical]
  exact ⟨number, rfl⟩

/-- A float whose exponent is too large is stored as infinity. -/
theorem IsRoundingOf.storesAs {sign : Sign} {n : Nat} {x : UnpackedFloat}
    (rounding : IsRoundingOf sign n x) : StoresAs x (nearestUnits (sign.apply n)) := by
  obtain ⟨m, e, positive, rfl, rounds, bits, least, digits⟩ := rounding
  rw [nearestUnits_apply, ← rounds]
  by_cases fits : e ≤ 971
  · have canonical : IsCanonical (.finite sign m e positive) := ⟨bits, least, fits, digits⟩
    rw [StoresAs, stored_eq canonical, unitsOf,
      Nat.min_eq_left (Nat.le_of_lt (magnitude_lt_infiniteUnits canonical))]
    exact ⟨by simp, rfl⟩
  · have normal : 2 ^ 52 ≤ m := digits.resolve_right (by omega)
    have biased : ¬(e + Format.binary64.exponentBias +
        Format.binary64.mantissaBitsWithoutImplicit).toNat + 1 < 2 ^ 11 := by
      simp only [Format.exponentBias]
      norm_num
      omega
    have infinite : stored (.finite sign m e positive) = stored (.infinity sign) := by
      unfold stored UnpackedFloat.pack
      dsimp only
      rw [if_pos (Nat.le_of_not_lt biased)]
    have large : infiniteUnits ≤ magnitude m e := by
      calc infiniteUnits ≤ 2 ^ (52 + (e + 1074).toNat) :=
            Nat.pow_le_pow_right Nat.two_pos (by rw [infiniteExponent_eq]; omega)
        _ = 2 ^ 52 * 2 ^ (e + 1074).toNat := Nat.pow_add 2 52 _
        _ ≤ magnitude m e := Nat.mul_le_mul_right _ normal
    have kept : stored (.infinity sign) = .infinity sign := stored_eq trivial
    rw [StoresAs, infinite, kept, Nat.min_eq_right large]
    exact ⟨by simp, rfl⟩

/-! ## Sums -/

theorem storesAs_normalize (n : Int) {e : Int} (least : -1074 ≤ e) (zeroSign : Sign) :
    StoresAs (UnpackedFloat.normalize Format.binary64 n e zeroSign)
      (nearestUnits (n * 2 ^ (e + 1074).toNat)) := by
  rcases lt_trichotomy n 0 with negative | zero | positive
  · have value : n * 2 ^ (e + 1074).toNat = Sign.negative.apply (magnitude (-n).toNat e) := by
      rw [Sign.apply, magnitude]
      push_cast
      rw [Int.toNat_of_nonneg (by omega)]
      ring
    rw [UnpackedFloat.normalize, compare_lt_iff_lt.mpr negative, value]
    exact (isRoundingOf_round .negative (by omega) least).storesAs
  · rw [UnpackedFloat.normalize, compare_eq_iff_eq.mpr zero, zero, Int.zero_mul]
    exact storesAs_of_canonical (x := .zero zeroSign) trivial (by simp)
  · have value : n * 2 ^ (e + 1074).toNat = Sign.positive.apply (magnitude n.toNat e) := by
      rw [Sign.apply, magnitude]
      push_cast
      rw [Int.toNat_of_nonneg (by omega)]
    rw [UnpackedFloat.normalize, compare_gt_iff_gt.mpr positive, value]
    exact (isRoundingOf_round .positive (by omega) least).storesAs

/-- The units of a finite float that is written with a lower exponent. -/
theorem unitsOf_decreaseExponent {m : Nat} {e target : Int} (sign : Sign) (positive : 0 < m)
    (least : -1074 ≤ target) (lower : target ≤ e) :
    unitsOf (.finite sign m e positive) =
      sign.apply (decreaseExponent m e target).1 * 2 ^ (target + 1074).toNat := by
  have exponent : (decreaseExponent m e target).2 = target := by
    rw [decreaseExponent]
    omega
  rw [unitsOf, ← magnitude_decreaseExponent m e least, exponent, magnitude]
  cases sign with
  | negative =>
      rw [Sign.apply, Sign.apply]
      push_cast
      ring
  | positive =>
      rw [Sign.apply, Sign.apply]
      push_cast
      ring

/-- The units of a sum are the sum of the units, rounded. -/
theorem storesAs_add {x y : UnpackedFloat} (canonical : IsCanonical x) (canonical' : IsCanonical y)
    (number : x ≠ .notANumber) (number' : y ≠ .notANumber)
    (finite : ∀ sign, x ≠ .infinity sign) (finite' : ∀ sign, y ≠ .infinity sign) :
    StoresAs (UnpackedFloat.add Format.binary64 x y) (nearestUnits (unitsOf x + unitsOf y)) := by
  cases x with
  | notANumber => exact (number rfl).elim
  | infinity sign => exact (finite sign rfl).elim
  | zero sign =>
      cases y with
      | notANumber => exact (number' rfl).elim
      | infinity sign' => exact (finite' sign' rfl).elim
      | zero sign' =>
          show StoresAs (if sign == sign' then .zero sign else .zero .positive) (nearestUnits 0)
          split
          · exact storesAs_of_canonical (x := .zero sign) trivial (by simp)
          · exact storesAs_of_canonical (x := .zero .positive) trivial (by simp)
      | finite =>
          rw [unitsOf_zero, Int.zero_add]
          exact storesAs_of_canonical canonical' number'
  | finite sign m e positive =>
      cases y with
      | notANumber => exact (number' rfl).elim
      | infinity sign' => exact (finite' sign' rfl).elim
      | zero =>
          rw [unitsOf_zero, Int.add_zero]
          exact storesAs_of_canonical canonical number
      | finite sign' m' e' positive' =>
          have least : -1074 ≤ min e e' := le_min canonical.2.1 canonical'.2.1
          rw [unitsOf_decreaseExponent sign positive least (min_le_left e e'),
            unitsOf_decreaseExponent sign' positive' least (min_le_right e e'), ← Int.add_mul]
          exact storesAs_normalize _ least .positive

/-! ## Floats -/

variable {x y : Float}

theorem unpack_add (x y : Float) : (x + y).toModel.unpack =
    stored (UnpackedFloat.add Format.binary64 x.toModel.unpack y.toModel.unpack) :=
  rfl

theorem units_add (number : IsNumber x) (number' : IsNumber y) (finite : ¬IsInfinite x)
    (finite' : ¬IsInfinite y) :
    IsNumber (x + y) ∧ units (x + y) = nearestUnits (units x + units y) := by
  rw [IsNumber, units, unpack_add]
  exact storesAs_add (isCanonical_float x) (isCanonical_float y) number number'
    (fun sign same => finite ⟨sign, same⟩) (fun sign same => finite' ⟨sign, same⟩)

/-- An infinity stays when something finite is added. -/
theorem add_infinite (infinite : IsInfinite x) (number' : IsNumber y) (finite' : ¬IsInfinite y) :
    x + y = x := by
  obtain ⟨sign, same⟩ := infinite
  have kept : stored (.infinity sign) = .infinity sign := stored_eq trivial
  apply eq_of_unpack
  rw [unpack_add, same]
  cases other : y.toModel.unpack with
  | notANumber => exact (number' other).elim
  | infinity sign' => exact (finite' ⟨sign', other⟩).elim
  | zero | finite => exact kept

end TreeMacros.Binary
