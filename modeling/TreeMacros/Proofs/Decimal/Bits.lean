import Mathlib
import TreeMacros.Proofs.Decimal.Units

/-! # The bits of floats

A float is its sign and the bits of its magnitude. The parts that arithmetic works on are those
that the bits stand for: they say whether the float is finite, and put together again the bits give
the float back.
-/

namespace TreeMacros.Binary

open Float.Model Float.Model.UnpackedFloat

theorem hiddenBit_eq : hiddenBit = 2 ^ 52 :=
  rfl

theorem signBit_eq : signBit = 2048 * hiddenBit :=
  rfl

/-! ## Fields of bits -/

theorem toNat_unpackMantissa (bits : BitVec 64) :
    (@unpackMantissa Format.binary64 bits).toNat = bits.toNat % hiddenBit := by
  simp [unpackMantissa, hiddenBit]

theorem toNat_unpackExponent (bits : BitVec 64) :
    (@unpackExponent Format.binary64 bits).toNat = bits.toNat % signBit / hiddenBit := by
  rw [signBit_eq, Nat.mul_comm, Nat.mod_mul_right_div_self]
  simp [unpackExponent, hiddenBit, Nat.shiftRight_eq_div_pow]

theorem toNat_unpackSign (bits : BitVec 64) :
    (@unpackSign Format.binary64 bits).toNat = bits.toNat / signBit := by
  have less := bits.isLt
  have positive : signBit = 2 ^ 63 := rfl
  simp [unpackSign, Nat.shiftRight_eq_div_pow, positive]
  omega

variable (x : Float)

theorem magnitudeBits_mod : magnitudeBits x % hiddenBit = x.toBits.toNat % hiddenBit := by
  rw [magnitudeBits, signBit_eq, Nat.mod_mul_left_mod]

theorem magnitudeBits_lt : magnitudeBits x < signBit :=
  Nat.mod_lt _ (by decide)

/-- The exponent of what is not finite has all of its bits. -/
theorem unpackExponent_eq_neg_one (bits : BitVec 64) :
    @unpackExponent Format.binary64 bits = -1#11 ↔ infinityBits ≤ bits.toNat % signBit := by
  have less : bits.toNat % signBit < 2048 * hiddenBit := Nat.mod_lt _ (by decide)
  have positive : 0 < hiddenBit := by decide
  rw [← BitVec.toNat_inj, toNat_unpackExponent, infinityBits]
  show _ = 2047 ↔ _
  rw [← Nat.le_div_iff_mul_le positive]
  have most := (Nat.div_lt_iff_lt_mul positive).mpr less
  omega

/-- The bits of what is not finite are those of infinity and a payload. -/
theorem magnitudeBits_of_le (special : infinityBits ≤ magnitudeBits x) :
    magnitudeBits x = infinityBits + magnitudeBits x % hiddenBit := by
  have less := magnitudeBits_lt x
  rw [signBit_eq] at less
  unfold infinityBits at special ⊢
  have positive : 0 < hiddenBit := by decide
  have split := Nat.div_add_mod' (magnitudeBits x) hiddenBit
  have low := (Nat.le_div_iff_mul_le positive).mpr special
  have high := (Nat.div_lt_iff_lt_mul positive).mpr less
  have quotient : magnitudeBits x / hiddenBit = 2047 := by omega
  rw [quotient] at split
  omega

theorem unpackMantissa_eq_zero :
    @unpackMantissa Format.binary64 x.toBits.toBitVec = 0#52 ↔ magnitudeBits x % hiddenBit = 0 := by
  rw [← BitVec.toNat_inj, toNat_unpackMantissa, magnitudeBits_mod]
  rfl

/-! ## Parts of floats -/

/-- The sign that a set bit stands for. -/
def signOf (negative : Bool) : Sign :=
  if negative then .negative else .positive

/-- The finite magnitude that bits stand for; `ofFloat` reads it off those of a float. -/
def ofBits (bits : Nat) : Binary :=
  if bits / hiddenBit = 0 then ⟨bits, leastExponent⟩
  else ⟨bits % hiddenBit + hiddenBit, leastExponent + (bits / hiddenBit - 1 : Nat)⟩

/-- The float that a sign and the bits of a magnitude stand for. -/
def assembled (sign : Sign) (bits : Nat) : UnpackedFloat :=
  if infinityBits < bits then .notANumber
  else if bits = infinityBits then .infinity sign
  else if positive : 0 < (ofBits bits).mantissa then
    .finite sign (ofBits bits).mantissa (ofBits bits).exponent positive
  else .zero sign

theorem ofBits_subnormal {bits : Nat} (subnormal : bits < hiddenBit) :
    ofBits bits = ⟨bits, leastExponent⟩ :=
  if_pos (Nat.div_eq_of_lt subnormal)

theorem ofBits_normal {bits : Nat} (normal : hiddenBit ≤ bits) :
    ofBits bits =
      ⟨bits % hiddenBit + hiddenBit, leastExponent + (bits / hiddenBit - 1 : Nat)⟩ :=
  if_neg (Nat.div_pos normal (by decide)).ne'

theorem ofBitVec_unpackSign :
    Sign.ofBitVec (@unpackSign Format.binary64 x.toBits.toBitVec) = signOf (isNegative x) := by
  have less : x.toBits.toBitVec.toNat < 2 * signBit := x.toBits.toBitVec.isLt
  have positive : 0 < signBit := by decide
  have set : @unpackSign Format.binary64 x.toBits.toBitVec = 0#1 ↔ isNegative x = false := by
    rw [← BitVec.toNat_inj, toNat_unpackSign, isNegative, decide_eq_false_iff_not, Nat.not_le]
    exact Nat.div_eq_zero_iff_lt positive
  unfold Sign.ofBitVec signOf
  by_cases negative : isNegative x = true
  · rw [if_neg (by rw [set, negative]; exact Bool.noConfusion), if_pos negative]
  · rw [if_pos (set.mpr (Bool.not_eq_true _ ▸ negative)), if_neg negative]

/-- What arithmetic reads off a float is its sign and its magnitude. -/
theorem unpack_eq : x.toModel.unpack = assembled (signOf (isNegative x)) (magnitudeBits x) := by
  have exponent : @unpackExponent Format.binary64 x.toBits.toBitVec = -1#11 ↔
      infinityBits ≤ magnitudeBits x := unpackExponent_eq_neg_one _
  have field : (@unpackExponent Format.binary64 x.toBits.toBitVec).toNat =
      magnitudeBits x / hiddenBit := toNat_unpackExponent _
  have low : (@unpackMantissa Format.binary64 x.toBits.toBitVec).toNat =
      magnitudeBits x % hiddenBit := (toNat_unpackMantissa _).trans (magnitudeBits_mod x).symm
  have mantissa := unpackMantissa_eq_zero x
  have hidden : 0 < hiddenBit := by decide
  show UnpackedFloat.unpack Format.binary64 x.toBits.toBitVec = _
  unfold UnpackedFloat.unpack assembled
  dsimp only
  rw [ofBitVec_unpackSign]
  split
  · next special =>
      have payload := magnitudeBits_of_le x (exponent.mp special)
      split
      · next none =>
          have zero := mantissa.mp none
          rw [if_neg (by omega), if_pos (by omega)]
      · next some =>
          have nonzero : magnitudeBits x % hiddenBit ≠ 0 := fun zero => some (mantissa.mpr zero)
          rw [if_pos (by omega)]
  · next finite =>
      have less : ¬ infinityBits ≤ magnitudeBits x := fun le => finite (exponent.mpr le)
      have number : ¬ infinityBits < magnitudeBits x := fun lt => less (Nat.le_of_lt lt)
      have bounded : ¬ magnitudeBits x = infinityBits := fun same => less (Nat.le_of_eq same.symm)
      rw [if_neg number, if_neg bounded]
      split
      · next least =>
          have small : magnitudeBits x < hiddenBit := by
            rw [← Nat.div_eq_zero_iff_lt hidden, ← field, least]
            rfl
          rw [Nat.mod_eq_of_lt small] at low mantissa
          simp only [ofBits_subnormal small]
          split
          · next none =>
              rw [dif_neg (by rw [mantissa.mp none]; exact Nat.lt_irrefl 0)]
          · next some =>
              rw [dif_pos (Nat.pos_of_ne_zero fun zero => some (mantissa.mpr zero))]
              congr 1
              rw [least]
              rfl
      · next noLeast =>
          have normal : hiddenBit ≤ magnitudeBits x := by
            refine Nat.le_of_not_lt fun small => noLeast (BitVec.eq_of_toNat_eq ?_)
            rw [field, Nat.div_eq_of_lt small]
            rfl
          have above := Nat.div_pos normal hidden
          simp only [ofBits_normal normal]
          rw [dif_pos (Nat.add_pos_right _ hidden)]
          congr 1
          · rw [toNat_hidden, low, hiddenBit_eq, Nat.add_comm]
          · rw [field, leastExponent]
            simp only [Format.exponentBias]
            norm_num
            omega

theorem isNaN_iff : x.isNaN = true ↔ infinityBits < magnitudeBits x := by
  show x.toModel.unpack.isNaN = true ↔ _
  rw [unpack_eq, assembled]
  split
  · next payload => simp only [UnpackedFloat.isNaN, payload]
  · next number =>
      split
      · simp only [UnpackedFloat.isNaN, number, Bool.false_eq_true]
      · split <;> simp only [UnpackedFloat.isNaN, number, Bool.false_eq_true]

theorem isInf_iff : x.isInf = true ↔ magnitudeBits x = infinityBits := by
  show x.toModel.unpack.isInf = true ↔ _
  rw [unpack_eq, assembled]
  split
  · next payload => simp only [UnpackedFloat.isInf, Bool.false_eq_true, payload.ne']
  · split
    · next infinite => simp only [UnpackedFloat.isInf, infinite]
    · next finite => split <;> simp only [UnpackedFloat.isInf, finite, Bool.false_eq_true]

/-- The float is neither NaN nor infinite. -/
theorem finite_iff : x.isNaN = false ∧ x.isInf = false ↔ magnitudeBits x < infinityBits := by
  rw [← Bool.not_eq_true, ← Bool.not_eq_true, isNaN_iff, isInf_iff]
  omega

/-! ## Putting bits together -/

/-- The sign stands above the bits of the magnitude. -/
theorem signed_bits (negative : Bool) {bits : Nat} (fits : bits ≤ infinityBits) :
    let word := if negative then bits + signBit else bits
    word < 2 ^ 64 ∧ word % signBit = bits := by
  have small : infinityBits + signBit < 2 ^ 64 := by decide
  have below : infinityBits < signBit := by decide
  have alone : bits % signBit = bits := Nat.mod_eq_of_lt (by omega)
  cases negative with
  | false => exact ⟨by simp only [Bool.false_eq_true, if_false]; omega, alone⟩
  | true => exact ⟨by simp only [if_true]; omega, (Nat.add_mod_right bits signBit).trans alone⟩

/-- Bits up to those of infinity are kept, with the sign in front. -/
theorem toBits_withSign (negative : Bool) {bits : Nat} (fits : bits ≤ infinityBits) :
    (withSign negative bits).toBits.toNat = if negative then bits + signBit else bits := by
  obtain ⟨small, magnitude⟩ := signed_bits negative fits
  generalize isWord : (if negative then bits + signBit else bits) = word at small magnitude
  have toNat : (UInt64.ofNat word).toBitVec.toNat = word := UInt64.toNat_ofNat_of_lt' small
  have valid : Format.binary64.Valid (UInt64.ofNat word).toBitVec := by
    constructor
    intro special payload
    -- Of what is not finite, only infinity is put together here.
    have above := (unpackExponent_eq_neg_one _).mp special
    rw [toNat, magnitude] at above
    have infinite : word % hiddenBit = 0 := by
      rw [← Nat.mod_mul_left_mod word 2048 hiddenBit, ← signBit_eq, magnitude,
        Nat.le_antisymm fits above]
      rfl
    refine absurd (BitVec.eq_of_toNat_eq ?_) payload
    rw [toNat_unpackMantissa, toNat, infinite]
    rfl
  have kept : (withSign negative bits).toBits = UInt64.ofNat word := by
    rw [withSign, isWord]
    exact UInt64.toBitVec_inj.mp (pack_unpack_of_valid valid)
  rw [kept]
  exact toNat

theorem magnitudeBits_withSign (negative : Bool) {bits : Nat} (fits : bits ≤ infinityBits) :
    magnitudeBits (withSign negative bits) = bits := by
  rw [magnitudeBits, toBits_withSign negative fits]
  exact (signed_bits negative fits).2

/-- A float is its sign and its magnitude. -/
theorem withSign_self : withSign (isNegative x) (magnitudeBits x) = x := by
  have less : x.toBits.toNat < 2 * signBit := x.toBits.toNat_lt
  have word : (if isNegative x then magnitudeBits x + signBit else magnitudeBits x) =
      x.toBits.toNat := by
    simp only [isNegative, decide_eq_true_eq, magnitudeBits]
    split
    · next le =>
        rw [Nat.mod_eq_sub_mod le, Nat.mod_eq_of_lt (by omega)]
        omega
    · next lt => exact Nat.mod_eq_of_lt (by omega)
  rw [withSign, word, UInt64.ofNat_toNat, Float.ofBits_toBits]

end TreeMacros.Binary
