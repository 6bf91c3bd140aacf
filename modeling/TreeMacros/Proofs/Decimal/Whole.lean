import Mathlib
import TreeMacros.Proofs.Decimal.Bits

/-! # Whole numbers as floats

A whole number of up to 53 bits that is read off a float gives this float again, but that a zero
loses its sign. A whole number that fits a word is rounded to a finite float.
-/

namespace TreeMacros.Binary

/-! ## The float nearest to a natural -/

theorem scaled_two_natCast (n k : Nat) : scaled 2 n k = (n * 2 ^ k, 1) :=
  rfl

theorem scaled_two_neg (n k : Nat) : scaled 2 n (-k) = (n, 2 ^ k) := by
  cases k with
  | zero => exact (scaled_two_natCast n 0).trans (by rw [Nat.pow_zero, Nat.mul_one])
  | succ k => rfl

/-- The nearest float has its last bit 52 places behind the first bit of the natural. -/
theorem nearest_natural {n : Nat} (nonzero : n ≠ 0) {exponent : Int}
    (place : exponent = n.log2 - 52) :
    nearest n 1 = min ((exponent + 1074).toNat * hiddenBit +
      roundHalfEven (n * (scaled 2 1 exponent).2) (scaled 2 1 exponent).1) infinityBits := by
  have first : 2 ^ n.log2 ≤ n := Nat.log2_self_le nonzero
  have size : ((n.log2 : Nat) : Int) - ((1 : Nat).log2 : Nat) = (n.log2 : Nat) :=
    Int.sub_zero _
  have noLess : ¬ n * 1 < 1 * (1 * 2 ^ n.log2) := by omega
  have least : max ((n.log2 : Nat) - 52 : Int) leastExponent = exponent := by
    rw [place, leastExponent]
    omega
  unfold nearest
  rw [if_neg nonzero]
  dsimp only
  rw [size, scaled_two_natCast, if_neg noLess, least, Nat.one_mul]
  rfl

theorem roundHalfEven_one (n : Nat) : roundHalfEven n 1 = n := by
  simp [roundHalfEven, Nat.mod_one]

/-- A natural that can be written with 53 bits is kept. -/
theorem nearest_short {n k : Nat} (normal : 2 ^ 52 ≤ n * 2 ^ k) (short : n * 2 ^ k < 2 ^ 53) :
    nearest n 1 = (1074 - k) * hiddenBit + n * 2 ^ k := by
  have nonzero : n ≠ 0 := by
    rintro rfl
    simp at normal
  have log2 : n.log2 + k = 52 := by
    rw [← log2_mul_two_pow nonzero]
    exact (Nat.log2_eq_iff (by omega)).mpr ⟨normal, short⟩
  have most : (1074 - k) * hiddenBit + n * 2 ^ k ≤ infinityBits := by
    rw [infinityBits, hiddenBit_eq]
    omega
  have exponent : (-k : Int) = n.log2 - 52 := by omega
  have place : (-k + 1074 : Int).toNat = 1074 - k := by omega
  rw [nearest_natural nonzero exponent, scaled_two_neg, place]
  dsimp only
  rw [roundHalfEven_one, Nat.min_eq_left most]

/-- The float nearest to a natural that fits a word is finite. -/
theorem nearest_lt {n : Nat} (word : n < 2 ^ 64) : nearest n 1 < infinityBits := by
  by_cases zero : n = 0
  · subst zero
    decide
  · have log2 : n.log2 < 64 := (Nat.log2_lt zero).mpr word
    have bits : n < 2 ^ (n.log2 + 1) := Nat.lt_log2_self
    have most : roundHalfEven (n * (scaled 2 1 (n.log2 - 52)).2) (scaled 2 1 (n.log2 - 52)).1 ≤
        2 ^ 53 := by
      obtain ⟨k, dropped⟩ | ⟨k, added⟩ : (∃ k, n.log2 = 52 + k) ∨ ∃ k, n.log2 + k = 52 :=
        (Nat.le_total 52 n.log2).imp Nat.exists_eq_add_of_le fun le =>
          ⟨52 - n.log2, Nat.add_sub_cancel' le⟩
      · have place : (n.log2 - 52 : Int) = k := by omega
        rw [place, scaled_two_natCast]
        refine roundHalfEven_le (Nat.mul_pos Nat.one_pos (Nat.two_pow_pos k)) ?_
        rw [Nat.mul_one, Nat.one_mul, ← Nat.pow_add]
        exact Nat.le_of_lt (bits.trans_eq (by congr 1; omega))
      · have place : (n.log2 - 52 : Int) = -k := by omega
        rw [place, scaled_two_neg]
        refine roundHalfEven_le Nat.one_pos ?_
        calc n * 2 ^ k ≤ 2 ^ (n.log2 + 1) * 2 ^ k := Nat.mul_le_mul_right _ (Nat.le_of_lt bits)
          _ = 2 ^ 53 * 1 := by rw [← Nat.pow_add, Nat.mul_one]; congr 1; omega
    have finite : 1086 * hiddenBit + 2 ^ 53 < infinityBits := by decide
    rw [nearest_natural zero rfl]
    refine Nat.lt_of_le_of_lt (Nat.min_le_left _ _) (Nat.lt_of_le_of_lt ?_ finite)
    exact Nat.add_le_add (Nat.mul_le_mul_right _ (by omega)) most

/-! ## Whole floats -/

variable {x : Float} {n : Int}

/-- The magnitude of a whole float in lowest terms, and its sign. -/
theorem whole?_eq_some (whole : whole? x = some n) :
    magnitudeBits x < infinityBits ∧
      (scaled 2 (ofFloat x).mantissa (ofFloat x).exponent).1 =
        n.natAbs * (scaled 2 (ofFloat x).mantissa (ofFloat x).exponent).2 ∧
      (n ≠ 0 → isNegative x = decide (n < 0)) := by
  unfold whole? at whole
  split at whole
  · cases whole
  · next finite =>
      rw [Bool.or_eq_true, not_or, Bool.not_eq_true, Bool.not_eq_true, finite_iff] at finite
      dsimp only at whole
      split at whole
      · next divides =>
          have product := Nat.div_mul_cancel (Nat.dvd_of_mod_eq_zero divides)
          generalize (scaled 2 (ofFloat x).mantissa (ofFloat x).exponent).1 /
            (scaled 2 (ofFloat x).mantissa (ofFloat x).exponent).2 = size at whole product
          obtain rfl := Option.some.inj whole
          cases negative : isNegative x with
          | false =>
              simp only [Bool.false_eq_true, if_false]
              exact ⟨finite, product.symm, fun _ => (decide_eq_false (by omega)).symm⟩
          | true =>
              simp only [if_true, Int.natAbs_neg]
              exact ⟨finite, product.symm, fun _ => (decide_eq_true (by omega)).symm⟩
      · cases whole

/-- The mantissa of a whole float is a multiple of a power of two that the exponent takes back. -/
theorem magnitudeBits_of_whole (whole : whole? x = some n) (nonzero : n ≠ 0)
    (short : n.natAbs < 2 ^ 53) :
    ∃ k, 2 ^ 52 ≤ n.natAbs * 2 ^ k ∧ n.natAbs * 2 ^ k < 2 ^ 53 ∧
      magnitudeBits x = (1074 - k) * hiddenBit + n.natAbs * 2 ^ k := by
  obtain ⟨finite, magnitude, -⟩ := whole?_eq_some whole
  have nonzeroAbs : 0 < n.natAbs := Int.natAbs_pos.mpr nonzero
  have positive : 0 < hiddenBit := by decide
  have split := Nat.div_add_mod' (magnitudeBits x) hiddenBit
  have low := Nat.mod_lt (magnitudeBits x) positive
  unfold ofFloat at magnitude
  dsimp only at magnitude
  split at magnitude
  · next subnormal =>
      -- What is below the least normal float is no multiple of one.
      have small : magnitudeBits x < 2 ^ 52 := by
        rw [← hiddenBit_eq]
        exact (Nat.div_eq_zero_iff_lt positive).mp subnormal
      obtain ⟨power, order, least⟩ : ∃ power, 2 ^ 52 ≤ power ∧
          scaled 2 (magnitudeBits x) leastExponent = (magnitudeBits x, power) :=
        ⟨2 ^ 1074, Nat.pow_le_pow_right Nat.two_pos (by decide), scaled_two_neg _ 1074⟩
      rw [least] at magnitude
      have large : power ≤ n.natAbs * power := Nat.le_mul_of_pos_left _ nonzeroAbs
      exact absurd (large.trans_eq magnitude.symm) (Nat.not_le.mpr (small.trans_le order))
  · next normal =>
      generalize magnitudeBits x / hiddenBit = field at *
      generalize magnitudeBits x % hiddenBit = rest at *
      rw [hiddenBit_eq] at low magnitude
      obtain ⟨k, fraction⟩ | ⟨k, whole⟩ : (∃ k, field + k = 1075) ∨ ∃ k, field = 1076 + k :=
        (Nat.lt_or_ge 1075 field).symm.imp (fun le => ⟨1075 - field, Nat.add_sub_of_le le⟩)
          Nat.exists_eq_add_of_le
      · have place : leastExponent + (field - 1 : Nat) = -k := by
          rw [leastExponent]
          omega
        rw [place, scaled_two_neg] at magnitude
        dsimp only at magnitude
        refine ⟨k, by omega, by omega, ?_⟩
        rw [← magnitude, ← split, hiddenBit_eq]
        omega
      · have place : leastExponent + (field - 1 : Nat) = (k + 1 : Nat) := by
          rw [leastExponent]
          omega
        rw [place, scaled_two_natCast, Nat.mul_one] at magnitude
        dsimp only at magnitude
        have power := Nat.two_pow_pos k
        have large : (rest + 2 ^ 52) * 2 ≤ (rest + 2 ^ 52) * 2 ^ (k + 1) :=
          Nat.mul_le_mul_left _ (by rw [Nat.pow_succ]; omega)
        omega

/-! ## There and back -/

/-- A number of a machine word, with its sign or without one, is a finite float. -/
theorem ofInt_finite {n : Int} (word : n.natAbs < 2 ^ 64) :
    magnitudeBits (ofInt n) < infinityBits := by
  have less := nearest_lt word
  rw [ofInt, magnitudeBits_withSign _ (Nat.le_of_lt less)]
  exact less

/-- The number of a whole float that is not zero gives the float back. -/
theorem ofInt_of_whole (whole : whole? x = some n) (nonzero : n ≠ 0)
    (short : n.natAbs < 2 ^ 53) : ofInt n = x := by
  obtain ⟨k, normal, fits, bits⟩ := magnitudeBits_of_whole whole nonzero short
  have sign := (whole?_eq_some whole).2.2 nonzero
  rw [ofInt, nearest_short normal fits, ← bits, ← sign, withSign_self]

theorem scaled_two_eq_zero {m : Nat} {exponent : Int} (zero : (scaled 2 m exponent).1 = 0) :
    m = 0 := by
  obtain e | e := exponent
  · exact (Nat.mul_eq_zero.mp zero).resolve_right (Nat.two_pow_pos e).ne'
  · exact zero

/-- What is zero has no bits but perhaps the sign. -/
theorem magnitudeBits_of_whole_zero (whole : whole? x = some 0) : magnitudeBits x = 0 := by
  obtain ⟨-, magnitude, -⟩ := whole?_eq_some whole
  rw [Int.natAbs_zero, Nat.zero_mul] at magnitude
  have mantissa := scaled_two_eq_zero magnitude
  have positive : 0 < hiddenBit := by decide
  unfold ofFloat at mantissa
  dsimp only at mantissa
  split at mantissa
  · exact mantissa
  · exact absurd mantissa (Nat.ne_of_gt (Nat.add_pos_right _ positive))

/-- The two zeros are the floats that are the whole number zero. -/
theorem beq_zero_iff : (x == 0) = true ↔ whole? x = some 0 := by
  constructor
  · intro zero
    obtain ⟨-, -, rfl | ⟨rfl, -⟩ | ⟨rfl, -⟩⟩ := Float.beq_iff_ne_nan_and_eq.mp zero <;>
      decide +kernel
  · intro whole
    have signed : x = withSign (isNegative x) 0 := by
      rw [← magnitudeBits_of_whole_zero whole, withSign_self]
    rw [signed]
    cases isNegative x <;> decide +kernel

end TreeMacros.Binary
