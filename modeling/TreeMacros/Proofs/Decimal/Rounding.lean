import Mathlib.Algebra.Order.Ring.Nat
import Mathlib.Tactic.Ring
import TreeMacros.Decimal.Binary

/-! # Naturals with 53 significant bits

Magnitudes of floats, measured in the least one, are naturals with at most 53 significant bits.
Any other natural is rounded to one of these that is nearest, half-way cases to an even multiple
of their distance.
-/

namespace TreeMacros.Binary

/-- The distance of naturals with 53 significant bits around a natural. -/
def spacing (n : Nat) : Nat :=
  2 ^ (n.log2 - 52)

/-- The significant bits of a natural, rounded. If all are carried, they are one more than 53. -/
def significand (n : Nat) : Nat :=
  roundHalfEven n (spacing n)

/-- A natural rounded to 53 significant bits. -/
def rounded (n : Nat) : Nat :=
  significand n * spacing n

/-- The natural has at most 53 significant bits. -/
def IsPrecise (n : Nat) : Prop :=
  spacing n ∣ n

variable {n m k d : Nat}

/-! ## Rounding a quotient -/

theorem roundHalfEven_cases (n d : Nat) :
    (roundHalfEven n d = n / d ∧ 2 * (n % d) ≤ d) ∨
      (roundHalfEven n d = n / d + 1 ∧ d ≤ 2 * (n % d)) := by
  unfold roundHalfEven
  dsimp only
  split
  · exact .inl ⟨rfl, by omega⟩
  · split
    · exact .inr ⟨rfl, by omega⟩
    · split
      · exact .inl ⟨rfl, by omega⟩
      · exact .inr ⟨rfl, by omega⟩

theorem roundHalfEven_tie (tie : 2 * (n % d) = d) : roundHalfEven n d % 2 = 0 := by
  unfold roundHalfEven
  dsimp only
  rw [if_neg (by omega), if_neg (by omega)]
  split <;> omega

theorem roundHalfEven_mul_right (positive : 0 < k) :
    roundHalfEven (n * k) (d * k) = roundHalfEven n d := by
  have scale : ∀ a b : Nat, a * k < b * k ↔ a < b := fun _ _ => Nat.mul_lt_mul_right positive
  unfold roundHalfEven
  dsimp only
  rw [Nat.mul_div_mul_right _ _ positive, Nat.mul_mod_mul_right, ← Nat.mul_assoc]
  simp only [scale]

/-- What is rounded moves by half a step at most. -/
theorem roundHalfEven_near (n : Nat) (positive : 0 < d) :
    2 * (roundHalfEven n d * d) ≤ 2 * n + d ∧ 2 * n ≤ 2 * (roundHalfEven n d * d) + d := by
  have split := Nat.div_add_mod' n d
  have less := Nat.mod_lt n positive
  obtain ⟨same, rest⟩ | ⟨same, rest⟩ := roundHalfEven_cases n d
  · rw [same]
    omega
  · rw [same, Nat.add_mul, Nat.one_mul]
    omega

theorem le_roundHalfEven (positive : 0 < d) (below : k * d ≤ n) : k ≤ roundHalfEven n d := by
  have quotient : k ≤ n / d := (Nat.le_div_iff_mul_le positive).mpr below
  obtain ⟨same, -⟩ | ⟨same, -⟩ := roundHalfEven_cases n d
  · omega
  · omega

theorem roundHalfEven_le (positive : 0 < d) (above : n ≤ k * d) : roundHalfEven n d ≤ k := by
  have split := Nat.div_add_mod' n d
  have quotient : n / d ≤ k := Nat.div_le_of_le_mul (by rwa [Nat.mul_comm] at above)
  obtain ⟨same, -⟩ | ⟨same, rest⟩ := roundHalfEven_cases n d
  · omega
  · -- there is a remainder, so the quotient is less than `k`
    have less : n / d ≠ k := by
      intro equal
      rw [equal] at split
      omega
    omega

/-! ## Spacing -/

/-- A greater multiple is greater by the divisor. -/
theorem add_le_of_dvd (divides : d ∣ n) (divides' : d ∣ m) (less : n < m) : n + d ≤ m := by
  have step := Nat.le_of_dvd (by omega) (Nat.dvd_sub divides' divides)
  omega

theorem spacing_pos (n : Nat) : 0 < spacing n :=
  Nat.two_pow_pos _

theorem spacing_dvd (log2 : n.log2 ≤ m.log2) : spacing n ∣ spacing m :=
  Nat.pow_dvd_pow 2 (Nat.sub_le_sub_right log2 52)

/-- The power of two at or below a natural, of which the spacing divides it. -/
theorem spacing_dvd_log2 (n : Nat) : spacing n ∣ 2 ^ n.log2 :=
  Nat.pow_dvd_pow 2 (Nat.sub_le _ _)

theorem log2_mono (le : n ≤ m) : n.log2 ≤ m.log2 := by
  by_cases zero : n = 0
  · subst zero
    simp
  · exact (Nat.le_log2 (by omega)).mpr (Nat.le_trans (Nat.log2_self_le zero) le)

/-- A natural and a power of two in it: their bits add up. -/
theorem log2_mul_two_pow (nonzero : n ≠ 0) (k : Nat) : (n * 2 ^ k).log2 = n.log2 + k := by
  have scale := Nat.two_pow_pos k
  rw [Nat.log2_eq_iff (Nat.mul_ne_zero nonzero (Nat.ne_of_gt scale))]
  constructor
  · rw [Nat.pow_add]
    exact Nat.mul_le_mul_right _ (Nat.log2_self_le nonzero)
  · rw [Nat.add_right_comm, Nat.pow_add]
    exact Nat.mul_lt_mul_of_pos_right Nat.lt_log2_self scale

theorem isPrecise_two_pow (k : Nat) : IsPrecise (2 ^ k) := by
  rw [IsPrecise, spacing, Nat.log2_two_pow]
  exact Nat.pow_dvd_pow 2 (Nat.sub_le _ _)

theorem IsPrecise.two_pow_dvd (precise : IsPrecise n) (large : 2 ^ (k + 52) ≤ n) : 2 ^ k ∣ n := by
  have nonzero : n ≠ 0 := by
    have positive := Nat.two_pow_pos (k + 52)
    omega
  have log2 : k + 52 ≤ n.log2 := (Nat.le_log2 nonzero).mpr large
  exact Nat.dvd_trans (Nat.pow_dvd_pow 2 (by omega)) precise

/-- The next natural with 53 significant bits has no more bits, or is the next power of two. -/
theorem add_spacing_le (precise : IsPrecise n) : n + spacing n ≤ 2 ^ (n.log2 + 1) := by
  have below : n < 2 ^ (n.log2 + 1) := Nat.lt_log2_self
  have divides : spacing n ∣ 2 ^ (n.log2 + 1) := Nat.pow_dvd_pow 2 (by omega)
  exact add_le_of_dvd precise divides below

/-! ## Rounding a natural -/

theorem spacing_dvd_rounded (n : Nat) : spacing n ∣ rounded n :=
  Nat.dvd_mul_left _ _

theorem rounded_near (n : Nat) :
    2 * rounded n ≤ 2 * n + spacing n ∧ 2 * n ≤ 2 * rounded n + spacing n :=
  roundHalfEven_near n (spacing_pos n)

/-- Half-way cases are rounded to an even multiple of the spacing. -/
theorem rounded_tie (tie : 2 * (n % spacing n) = spacing n) : 2 * spacing n ∣ rounded n :=
  Nat.mul_dvd_mul_right (Nat.dvd_of_mod_eq_zero (roundHalfEven_tie tie)) _

/-- Rounding does not pass a natural with 53 significant bits. -/
theorem rounded_le (precise : IsPrecise k) (le : n ≤ k) : rounded n ≤ k := by
  obtain ⟨steps, same⟩ := Nat.dvd_trans (spacing_dvd (log2_mono le)) precise
  rw [Nat.mul_comm] at same
  have above : n ≤ steps * spacing n := by omega
  rw [same]
  exact Nat.mul_le_mul_right _ (roundHalfEven_le (spacing_pos n) above)

theorem le_rounded_of_dvd (divides : spacing n ∣ k) (le : k ≤ n) : k ≤ rounded n := by
  obtain ⟨steps, same⟩ := divides
  rw [Nat.mul_comm] at same
  have below : steps * spacing n ≤ n := by omega
  rw [same]
  exact Nat.mul_le_mul_right _ (le_roundHalfEven (spacing_pos n) below)

theorem two_pow_log2_le_rounded (nonzero : n ≠ 0) : 2 ^ n.log2 ≤ rounded n :=
  le_rounded_of_dvd (spacing_dvd_log2 n) (Nat.log2_self_le nonzero)

theorem le_rounded (precise : IsPrecise k) (le : k ≤ n) : k ≤ rounded n := by
  by_cases same : k.log2 = n.log2
  · exact le_rounded_of_dvd (Nat.dvd_trans (spacing_dvd (Nat.le_of_eq same.symm)) precise) le
  · have less : k.log2 < n.log2 := Nat.lt_of_le_of_ne (log2_mono le) same
    have nonzero : n ≠ 0 := by
      rintro rfl
      simp at less
    have below : k < 2 ^ (k.log2 + 1) := Nat.lt_log2_self
    have power : 2 ^ (k.log2 + 1) ≤ 2 ^ n.log2 := Nat.pow_le_pow_right Nat.two_pos less
    have reached := two_pow_log2_le_rounded nonzero
    omega

theorem IsPrecise.rounded_eq (precise : IsPrecise n) : rounded n = n :=
  Nat.le_antisymm (rounded_le precise (Nat.le_refl n)) (le_rounded precise (Nat.le_refl n))

theorem significand_pos (nonzero : n ≠ 0) : 0 < significand n := by
  have reached := two_pow_log2_le_rounded nonzero
  have power := Nat.two_pow_pos n.log2
  exact Nat.pos_of_mul_pos_right (Nat.lt_of_lt_of_le power reached)

theorem significand_le (n : Nat) : significand n ≤ 2 ^ 53 := by
  have power : 2 ^ (n.log2 + 1) ≤ 2 ^ (53 + (n.log2 - 52)) :=
    Nat.pow_le_pow_right Nat.two_pos (by omega)
  have bound := rounded_le (isPrecise_two_pow (53 + (n.log2 - 52)))
    (Nat.le_trans (Nat.le_of_lt Nat.lt_log2_self) power)
  rw [Nat.pow_add] at bound
  exact Nat.le_of_mul_le_mul_right bound (spacing_pos n)

theorem le_significand (large : 52 ≤ n.log2) : 2 ^ 52 ≤ significand n := by
  have nonzero : n ≠ 0 := by
    rintro rfl
    simp at large
  have reached := two_pow_log2_le_rounded nonzero
  have power : 2 ^ n.log2 = 2 ^ 52 * spacing n := by
    rw [spacing, ← Nat.pow_add, Nat.add_sub_cancel' large]
  rw [power] at reached
  exact Nat.le_of_mul_le_mul_right reached (spacing_pos n)

/-- A multiple of the spacing is what is rounded to it if it is less than half a step away, or
    half a step and an even multiple. -/
theorem rounded_eq_of_near (divides : spacing n ∣ k) (below : 2 * n ≤ 2 * k + spacing n)
    (above : 2 * k ≤ 2 * n + spacing n)
    (even : 2 * n = 2 * k + spacing n ∨ 2 * k = 2 * n + spacing n → 2 * spacing n ∣ k) :
    rounded n = k := by
  obtain ⟨steps, isRounded⟩ := spacing_dvd_rounded n
  obtain ⟨steps', same⟩ := divides
  obtain ⟨near, near'⟩ := rounded_near n
  have positive := spacing_pos n
  -- if both are half a step away, they are even multiples next to each other
  have apart : ∀ low high, 2 * n = 2 * (spacing n * low) + spacing n →
      2 * (spacing n * high) = 2 * n + spacing n → 2 * spacing n ∣ spacing n * low →
      2 * spacing n ∣ spacing n * high → False := by
    intro low high half half' even even'
    have between : 2 * spacing n ∣ spacing n := by
      have next : spacing n * high = spacing n * low + spacing n := by omega
      exact (Nat.dvd_add_right even).mp (next ▸ even')
    have smaller := Nat.le_of_dvd positive between
    omega
  have tie : ∀ low, 2 * n = 2 * (spacing n * low) + spacing n → 2 * spacing n ∣ rounded n := by
    intro low half
    apply rounded_tie
    have below : spacing n * low ≤ n := by omega
    rw [← Nat.sub_mul_mod below, Nat.mod_eq_of_lt (by omega)]
    omega
  rw [isRounded] at near near' tie
  rw [same] at below above even
  rw [isRounded, same]
  rcases Nat.lt_trichotomy steps steps' with less | equal | more
  · have step : spacing n * steps + spacing n ≤ spacing n * steps' := Nat.mul_le_mul_left _ less
    have half : 2 * n = 2 * (spacing n * steps) + spacing n := by omega
    exact (apart steps steps' half (by omega) (tie steps half) (even (by omega))).elim
  · rw [equal]
  · have step : spacing n * steps' + spacing n ≤ spacing n * steps := Nat.mul_le_mul_left _ more
    have half : 2 * n = 2 * (spacing n * steps') + spacing n := by omega
    exact (apart steps' steps half (by omega) (even (by omega)) (tie steps' half)).elim

end TreeMacros.Binary
