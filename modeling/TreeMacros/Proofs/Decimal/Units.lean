import Mathlib
import TreeMacros.Proofs.Decimal.Rounding

/-! # Floats as whole numbers of units

All finite floats are multiples of the least positive one, the unit. So a float is measured by an
integer, an infinite one by the power of two above all finite ones. Floats that are not NaN compare
as their units do.
-/

namespace TreeMacros.Binary

open Float.Model Float.Model.UnpackedFloat

/-- The exponent of infinity, counted from the exponent of the unit. -/
@[irreducible]
def infiniteExponent : Nat := 2098

/-- The units of infinity: those of finite floats are less. -/
def infiniteUnits : Nat := 2 ^ infiniteExponent

theorem isPrecise_infiniteUnits : IsPrecise infiniteUnits :=
  isPrecise_two_pow infiniteExponent

theorem infiniteExponent_eq : infiniteExponent = 2098 := by
  rw [infiniteExponent]

/-! ## Canonical floats -/

/-- The magnitude of a finite float in units. -/
def magnitude (mantissa : Nat) (exponent : Int) : Nat :=
  mantissa * 2 ^ (exponent + 1074).toNat

/-- The value of a float as a whole number of units. -/
def unitsOf : UnpackedFloat → Int
  | .infinity sign => sign.apply infiniteUnits
  | .notANumber => 0
  | .zero _ => 0
  | .finite sign mantissa exponent _ => sign.apply (magnitude mantissa exponent)

@[simp] theorem natAbs_apply (sign : Sign) (n : Nat) : (sign.apply n).natAbs = n := by
  cases sign <;> simp [Sign.apply]

@[simp] theorem unitsOf_zero (sign : Sign) : unitsOf (.zero sign) = 0 :=
  rfl

@[simp] theorem unitsOf_infinity (sign : Sign) :
    unitsOf (.infinity sign) = sign.apply infiniteUnits :=
  rfl

/-- A finite float stands as it is unpacked: its mantissa has 53 bits, or fewer of them if its
    exponent is the least one. -/
def IsCanonical : UnpackedFloat → Prop
  | .finite _ mantissa exponent _ =>
    mantissa < 2 ^ 53 ∧ -1074 ≤ exponent ∧ exponent ≤ 971 ∧
      (2 ^ 52 ≤ mantissa ∨ exponent = -1074)
  | _ => True

/-- The mantissa of a normal float with its hidden bit. -/
theorem toNat_hidden (mantissa : BitVec 52) :
    (1#1 ++ mantissa).toNat = 2 ^ 52 + mantissa.toNat := by
  rw [BitVec.toNat_append, ← Nat.shiftLeft_add_eq_or_of_lt mantissa.isLt]
  rfl

theorem isCanonical_unpack (bits : BitVec 64) :
    IsCanonical (UnpackedFloat.unpack Format.binary64 bits) := by
  have mantissa : (@unpackMantissa Format.binary64 bits).toNat < 2 ^ 52 :=
    (@unpackMantissa Format.binary64 bits).isLt
  have exponent : (@unpackExponent Format.binary64 bits).toNat < 2 ^ 11 :=
    (@unpackExponent Format.binary64 bits).isLt
  unfold UnpackedFloat.unpack
  dsimp only
  split
  · split <;> trivial
  · next noMax =>
      have notMax : (@unpackExponent Format.binary64 bits).toNat ≠ 2047 :=
        fun same => noMax (BitVec.eq_of_toNat_eq same)
      split
      · next zero =>
          split
          · trivial
          · simp only [IsCanonical, zero, Format.exponentBias]
            norm_num
            omega
      · next noMin =>
          have notMin : (@unpackExponent Format.binary64 bits).toNat ≠ 0 :=
            fun same => noMin (BitVec.eq_of_toNat_eq same)
          simp only [IsCanonical, toNat_hidden, Format.exponentBias]
          norm_num
          omega

/-- A float as it is read back when it has been stored. -/
def stored (x : UnpackedFloat) : UnpackedFloat :=
  UnpackedFloat.unpack Format.binary64 (UnpackedFloat.pack Format.binary64 x)

theorem ofNat_ne {w n : Nat} {bits : BitVec w} (fits : n < 2 ^ w) (other : n ≠ bits.toNat) :
    BitVec.ofNat w n ≠ bits := by
  rintro rfl
  rw [BitVec.toNat_ofNat, Nat.mod_eq_of_lt fits] at other
  exact other rfl

/-- A canonical float is read back as it was. -/
theorem stored_eq {x : UnpackedFloat} (canonical : IsCanonical x) : stored x = x := by
  cases x with
  | notANumber => exact unpack_packedNaN
  | zero sign => exact unpack_packedZero
  | infinity sign => simp [stored, UnpackedFloat.pack, packedInfinity, UnpackedFloat.unpack]
  | finite sign m e positive =>
      obtain ⟨bits, least, greatest, digits⟩ := canonical
      have biased : (e + Format.binary64.exponentBias +
          Format.binary64.mantissaBitsWithoutImplicit).toNat = (e + 1075).toNat := by
        simp only [Format.exponentBias]
        norm_num
        omega
      unfold stored UnpackedFloat.pack
      dsimp only
      rw [biased, if_neg (by norm_num; omega)]
      by_cases normal : 2 ^ 52 ≤ m
      · have log2 : m.log2 = 52 := (Nat.log2_eq_iff (by omega)).mpr ⟨normal, bits⟩
        have field : (BitVec.ofNat 11 (e + 1075).toNat).toNat = (e + 1075).toNat := by
          rw [BitVec.toNat_ofNat]
          omega
        have noMax : BitVec.ofNat 11 (e + 1075).toNat ≠ -1#11 :=
          ofNat_ne (by omega) (by show _ ≠ 2047; omega)
        have noMin : BitVec.ofNat 11 (e + 1075).toNat ≠ 0#11 :=
          ofNat_ne (by omega) (by show _ ≠ 0; omega)
        rw [if_pos (by rw [log2]; rfl)]
        unfold UnpackedFloat.unpack
        simp only [unpackExponent_packComponents, unpackMantissa_packComponents,
          unpackSign_packComponents, Sign.ofBitVec_toBitVec]
        rw [if_neg noMax, if_neg noMin]
        congr 1
        · rw [toNat_hidden, BitVec.toNat_ofNat]
          omega
        · rw [field]
          simp only [Format.exponentBias]
          norm_num
          omega
      · have log2 : m.log2 < 52 := (Nat.log2_lt (by omega)).mpr (by omega)
        have value : (BitVec.ofNat 52 m).toNat = m := by
          rw [BitVec.toNat_ofNat]
          omega
        have nonzero : BitVec.ofNat 52 m ≠ 0#52 := ofNat_ne (by omega) (by show _ ≠ 0; omega)
        rw [if_neg (by show ¬m.log2 + 1 = 53; omega)]
        unfold UnpackedFloat.unpack
        simp only [unpackExponent_packComponents, unpackMantissa_packComponents,
          unpackSign_packComponents, Sign.ofBitVec_toBitVec]
        rw [if_neg (by decide), if_pos trivial, dif_neg nonzero]
        congr 1
        simp only [Format.exponentBias]
        norm_num
        omega

/-! ## Order -/

section Magnitude

variable {sign sign' : Sign} {m m' : Nat} {e e' : Int} {positive : 0 < m} {positive' : 0 < m'}

theorem magnitude_pos (positive : 0 < m) : 0 < magnitude m e :=
  Nat.mul_pos positive (Nat.two_pow_pos _)

theorem magnitude_lt_infiniteUnits (canonical : IsCanonical (.finite sign m e positive)) :
    magnitude m e < infiniteUnits := by
  obtain ⟨bits, -, greatest, -⟩ := canonical
  calc magnitude m e < 2 ^ 53 * 2 ^ (e + 1074).toNat :=
        Nat.mul_lt_mul_of_pos_right bits (Nat.two_pow_pos _)
    _ = 2 ^ (53 + (e + 1074).toNat) := (Nat.pow_add 2 53 _).symm
    _ ≤ infiniteUnits := Nat.pow_le_pow_right Nat.two_pos (by rw [infiniteExponent_eq]; omega)

theorem magnitude_lt_of_lt (canonical : IsCanonical (.finite sign m e positive))
    (canonical' : IsCanonical (.finite sign' m' e' positive')) (less : e < e') :
    magnitude m e < magnitude m' e' := by
  obtain ⟨bits, least, -, -⟩ := canonical
  obtain ⟨-, least', -, digits⟩ := canonical'
  have normal : 2 ^ 52 ≤ m' := digits.resolve_right (by omega)
  have scale : 2 ^ ((e + 1074).toNat + 1) ≤ 2 ^ (e' + 1074).toNat :=
    Nat.pow_le_pow_right Nat.two_pos (by omega)
  calc magnitude m e < 2 ^ 53 * 2 ^ (e + 1074).toNat :=
        Nat.mul_lt_mul_of_pos_right bits (Nat.two_pow_pos _)
    _ = 2 ^ 52 * 2 ^ ((e + 1074).toNat + 1) := by rw [← Nat.pow_add, ← Nat.pow_add]; congr 1; omega
    _ ≤ m' * 2 ^ (e' + 1074).toNat := Nat.mul_le_mul normal scale

/-- Magnitudes compare by exponents, and by mantissas where exponents are equal. -/
theorem compare_magnitude (canonical : IsCanonical (.finite sign m e positive))
    (canonical' : IsCanonical (.finite sign' m' e' positive')) :
    (compare e e').then (compare m m') = compare (magnitude m e) (magnitude m' e') := by
  rcases lt_trichotomy e e' with less | same | more
  · have smaller := magnitude_lt_of_lt canonical canonical' less
    rw [compare_lt_iff_lt.mpr less, compare_lt_iff_lt.mpr smaller]
    rfl
  · subst same
    rw [compare_eq_iff_eq.mpr rfl]
    show compare m m' = _
    have scale := Nat.two_pow_pos (e + 1074).toNat
    rcases lt_trichotomy m m' with less | same | more
    · have smaller : magnitude m e < magnitude m' e := Nat.mul_lt_mul_of_pos_right less scale
      rw [compare_lt_iff_lt.mpr less, compare_lt_iff_lt.mpr smaller]
    · rw [same, compare_eq_iff_eq.mpr rfl, compare_eq_iff_eq.mpr rfl]
    · have greater : magnitude m' e < magnitude m e := Nat.mul_lt_mul_of_pos_right more scale
      rw [compare_gt_iff_gt.mpr more, compare_gt_iff_gt.mpr greater]
  · have greater := magnitude_lt_of_lt canonical' canonical more
    rw [compare_gt_iff_gt.mpr more, compare_gt_iff_gt.mpr greater]
    rfl

end Magnitude

/-- The units of a float that is not infinite are between those of the infinities. -/
theorem natAbs_unitsOf_lt {x : UnpackedFloat} (canonical : IsCanonical x)
    (finite : ∀ sign, x ≠ .infinity sign) : (unitsOf x).natAbs < infiniteUnits := by
  cases x with
  | infinity sign => exact (finite sign rfl).elim
  | notANumber | zero => exact Nat.two_pow_pos infiniteExponent
  | finite sign m e positive =>
      rw [unitsOf, natAbs_apply]
      exact magnitude_lt_infiniteUnits canonical

/-- Floats compare as their units do. -/
theorem compare_unitsOf {x y : UnpackedFloat} (canonical : IsCanonical x)
    (canonical' : IsCanonical y) (number : x ≠ .notANumber) (number' : y ≠ .notANumber) :
    x.compare y = some (compare (unitsOf x) (unitsOf y)) := by
  have infinite : 0 < infiniteUnits := Nat.two_pow_pos infiniteExponent
  have less : ∀ {a b : Int}, a < b → some .lt = some (compare a b) :=
    fun below => congrArg some (compare_lt_iff_lt.mpr below).symm
  have greater : ∀ {a b : Int}, b < a → some .gt = some (compare a b) :=
    fun above => congrArg some (compare_gt_iff_gt.mpr above).symm
  have equal : ∀ a : Int, some .eq = some (compare a a) :=
    fun a => congrArg some (compare_eq_iff_eq.mpr rfl).symm
  fun_cases UnpackedFloat.compare x y with
  | case1 => exact (number rfl).elim
  | case2 => exact (number' rfl).elim
  | case3 sign sign' =>
      cases sign <;> cases sign'
      · exact equal _
      · exact less (by simp only [unitsOf, Sign.apply]; omega)
      · exact greater (by simp only [unitsOf, Sign.apply]; omega)
      · exact equal _
  | case4 _ other finite =>
      have bound := natAbs_unitsOf_lt canonical' finite
      exact greater (by rw [unitsOf, Sign.apply]; omega)
  | case5 _ other finite =>
      have bound := natAbs_unitsOf_lt canonical' finite
      exact less (by rw [unitsOf, Sign.apply]; omega)
  | case6 _ other finite =>
      have bound := natAbs_unitsOf_lt canonical finite
      exact less (by rw [unitsOf_infinity, Sign.apply]; omega)
  | case7 _ other finite =>
      have bound := natAbs_unitsOf_lt canonical finite
      exact greater (by rw [unitsOf_infinity, Sign.apply]; omega)
  | case8 m e positive sign =>
      have above := magnitude_pos (e := e) positive
      exact greater (by simp only [unitsOf, Sign.apply]; omega)
  | case9 m e positive sign =>
      have above := magnitude_pos (e := e) positive
      exact less (by simp only [unitsOf, Sign.apply]; omega)
  | case10 sign m e positive =>
      have above := magnitude_pos (e := e) positive
      exact less (by simp only [unitsOf, Sign.apply]; omega)
  | case11 sign m e positive =>
      have above := magnitude_pos (e := e) positive
      exact greater (by simp only [unitsOf, Sign.apply]; omega)
  | case12 => exact equal 0
  | case13 m e positive m' e' positive' =>
      rw [compare_magnitude canonical canonical']
      rcases lt_trichotomy (magnitude m e) (magnitude m' e') with below | same | above
      · rw [compare_lt_iff_lt.mpr below]
        exact greater (by simp only [unitsOf, Sign.apply]; omega)
      · rw [compare_eq_iff_eq.mpr same, unitsOf, unitsOf, same]
        exact equal _
      · rw [compare_gt_iff_gt.mpr above]
        exact less (by simp only [unitsOf, Sign.apply]; omega)
  | case14 m e positive m' e' positive' =>
      have above := magnitude_pos (e := e) positive
      have above' := magnitude_pos (e := e') positive'
      exact less (by simp only [unitsOf, Sign.apply]; omega)
  | case15 m e positive m' e' positive' =>
      have above := magnitude_pos (e := e) positive
      have above' := magnitude_pos (e := e') positive'
      exact greater (by simp only [unitsOf, Sign.apply]; omega)
  | case16 m e positive m' e' positive' =>
      rw [compare_magnitude canonical canonical']
      rcases lt_trichotomy (magnitude m e) (magnitude m' e') with below | same | above
      · rw [compare_lt_iff_lt.mpr below]
        exact less (by simp only [unitsOf, Sign.apply]; omega)
      · rw [compare_eq_iff_eq.mpr same, unitsOf, unitsOf, same]
        exact equal _
      · rw [compare_gt_iff_gt.mpr above]
        exact greater (by simp only [unitsOf, Sign.apply]; omega)

/-- A float is less than another one if neither is NaN and its units are less. -/
theorem lt_iff_unitsOf {x y : UnpackedFloat} (canonical : IsCanonical x)
    (canonical' : IsCanonical y) :
    x.lt y = true ↔ x ≠ .notANumber ∧ y ≠ .notANumber ∧ unitsOf x < unitsOf y := by
  by_cases number : x = .notANumber
  · subst number
    simp [UnpackedFloat.lt, UnpackedFloat.compare]
  · by_cases number' : y = .notANumber
    · subst number'
      cases x <;> simp [UnpackedFloat.lt, UnpackedFloat.compare]
    · rw [UnpackedFloat.lt, compare_unitsOf canonical canonical' number number']
      simp [number, number', compare_lt_iff_lt]

theorem le_iff_unitsOf {x y : UnpackedFloat} (canonical : IsCanonical x)
    (canonical' : IsCanonical y) :
    x.le y = true ↔ x ≠ .notANumber ∧ y ≠ .notANumber ∧ unitsOf x ≤ unitsOf y := by
  by_cases number : x = .notANumber
  · subst number
    simp [UnpackedFloat.le, UnpackedFloat.compare]
  · by_cases number' : y = .notANumber
    · subst number'
      cases x <;> simp [UnpackedFloat.le, UnpackedFloat.compare]
    · rw [UnpackedFloat.le, compare_unitsOf canonical canonical' number number']
      simp [number, number', Std.isLE_compare]

/-! ## Floats -/

/-- The value of a float as a whole number of units. -/
def units (x : Float) : Int :=
  unitsOf x.toModel.unpack

/-- The float is not NaN. -/
def IsNumber (x : Float) : Prop :=
  x.toModel.unpack ≠ .notANumber

/-- The float is an infinity. -/
def IsInfinite (x : Float) : Prop :=
  ∃ sign, x.toModel.unpack = .infinity sign

variable {x y : Float}

theorem isCanonical_float (x : Float) : IsCanonical x.toModel.unpack :=
  isCanonical_unpack _

section Finite

variable {sign : Sign} {m : Nat} {e : Int} {positive : 0 < m}

theorem isNumber_of_finite (same : x.toModel.unpack = .finite sign m e positive) : IsNumber x := by
  simp [IsNumber, same]

theorem not_isInfinite_of_finite (same : x.toModel.unpack = .finite sign m e positive) :
    ¬IsInfinite x := by
  simp [IsInfinite, same]

theorem units_of_finite (same : x.toModel.unpack = .finite sign m e positive) :
    units x = sign.apply (magnitude m e) := by
  rw [units, same, unitsOf]

end Finite

theorem lt_iff_units : x < y ↔ IsNumber x ∧ IsNumber y ∧ units x < units y := by
  have order := lt_iff_unitsOf (isCanonical_float x) (isCanonical_float y)
  show decide (x.toModel.unpack.lt y.toModel.unpack = true) = true ↔ _
  rw [decide_eq_true_iff]
  exact order

theorem le_iff_units : x ≤ y ↔ IsNumber x ∧ IsNumber y ∧ units x ≤ units y := by
  have order := le_iff_unitsOf (isCanonical_float x) (isCanonical_float y)
  show decide (x.toModel.unpack.le y.toModel.unpack = true) = true ↔ _
  rw [decide_eq_true_iff]
  exact order

theorem eq_of_unpack (same : x.toModel.unpack = y.toModel.unpack) : x = y := by
  have bits := (unpack_inj_of_valid x.toModel.valid y.toModel.valid).mp same
  exact Float.toBits_inj.mp (UInt64.toBitVec_inj.mp bits)

end TreeMacros.Binary
