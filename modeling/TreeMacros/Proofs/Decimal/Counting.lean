import TreeMacros.Proofs.Decimal.Sum

/-! # Counting in floats

Floats are counted up by adding one and rounding. Between the whole numbers that all are floats,
each step goes up by a half or more and none goes beyond the last of them. Outside of these, floats
are so far apart that one step may still go on to an even multiple of their distance, but the next
one stays there.
-/

namespace TreeMacros.Binary

/-- The exponent of one, counted from the exponent of the unit. -/
@[irreducible]
def oneExponent : Nat := 1074

theorem oneExponent_eq : oneExponent = 1074 := by
  rw [oneExponent]

/-- The units of one. -/
def oneUnits : Nat := 2 ^ oneExponent

/-- The units of the last whole number up to which all whole numbers are floats. -/
def exactUnits : Nat := 2 ^ (oneExponent + 1 + 52)

/-- The units of a float to which one was added. -/
def following (n : Int) : Int :=
  nearestUnits (n + oneUnits)

theorem oneUnits_pos : 0 < oneUnits :=
  Nat.two_pow_pos oneExponent

theorem exactUnits_eq : exactUnits = 9007199254740992 * oneUnits := by
  rw [exactUnits, Nat.add_assoc, Nat.pow_add, Nat.mul_comm, oneUnits]

theorem isPrecise_exactUnits : IsPrecise exactUnits :=
  isPrecise_two_pow _

theorem isPrecise_double : IsPrecise (2 * exactUnits) := by
  rw [exactUnits, ← Nat.pow_succ']
  exact isPrecise_two_pow _

theorem exactUnits_lt_infiniteUnits : exactUnits < infiniteUnits := by
  apply Nat.pow_lt_pow_right (Nat.lt_add_one 1)
  rw [oneExponent_eq, infiniteExponent_eq]
  omega

theorem four_oneUnits : 4 * oneUnits = 2 ^ (oneExponent + 2) := by
  rw [Nat.pow_add, Nat.mul_comm, oneUnits]

theorem dvd_exactUnits : 4 * oneUnits ∣ exactUnits := by
  rw [four_oneUnits]
  exact Nat.pow_dvd_pow 2 (by omega)

theorem dvd_infiniteUnits : 4 * oneUnits ∣ infiniteUnits := by
  rw [four_oneUnits]
  exact Nat.pow_dvd_pow 2 (by rw [oneExponent_eq, infiniteExponent_eq]; omega)

/-! ## Spacing -/

variable {p : Nat}

theorem spacing_le_one (below : p < exactUnits) : spacing p ≤ oneUnits := by
  apply Nat.pow_le_pow_right Nat.two_pos
  by_cases zero : p = 0
  · subst zero
    simp
  · have log2 : p.log2 < oneExponent + 1 + 52 := (Nat.log2_lt zero).mpr below
    omega

/-- From `exactUnits` on, floats are two apart and then four or more. -/
theorem spacing_cases (above : exactUnits ≤ p) :
    spacing p = 2 * oneUnits ∨ 2 * exactUnits ≤ p ∧ 4 * oneUnits ∣ spacing p := by
  have nonzero : p ≠ 0 := by
    have positive := Nat.two_pow_pos (oneExponent + 1 + 52)
    unfold exactUnits at above
    omega
  have log2 : oneExponent + 1 + 52 ≤ p.log2 := (Nat.le_log2 nonzero).mpr above
  by_cases first : p.log2 = oneExponent + 1 + 52
  · left
    rw [spacing, first, Nat.add_sub_cancel, Nat.pow_succ', oneUnits]
  · right
    have double : 2 * exactUnits = 2 ^ (oneExponent + 1 + 52 + 1) := (Nat.pow_succ').symm
    rw [double, four_oneUnits]
    exact ⟨(Nat.le_log2 nonzero).mp (by omega), Nat.pow_dvd_pow 2 (by omega)⟩

theorem dvd_of_isPrecise (precise : IsPrecise p) (above : exactUnits ≤ p) :
    2 * oneUnits ∣ p := by
  have divides := precise.two_pow_dvd above
  rwa [Nat.pow_succ', ← oneUnits] at divides

theorem two_oneUnits_le_spacing (above : exactUnits ≤ p) : 2 * oneUnits ≤ spacing p := by
  obtain steps | ⟨-, steps⟩ := spacing_cases above
  · omega
  · have more := Nat.le_of_dvd (spacing_pos p) steps
    omega

/-- What is at most one beyond `exactUnits` is rounded to it. -/
theorem rounded_le_exactUnits (most : p ≤ exactUnits + oneUnits) : rounded p ≤ exactUnits := by
  by_cases below : p ≤ exactUnits
  · exact rounded_le isPrecise_exactUnits below
  · have positive := oneUnits_pos
    have exact := exactUnits_eq
    obtain steps | ⟨above, -⟩ := spacing_cases (p := p) (by omega)
    · have even : 2 * (2 * oneUnits) ∣ exactUnits := by
        rw [← Nat.mul_assoc]
        exact dvd_exactUnits
      apply Nat.le_of_eq
      apply rounded_eq_of_near
      · rw [steps]
        exact Nat.dvd_trans (Nat.dvd_mul_left _ 2) even
      · omega
      · omega
      · intro _
        rwa [steps]
    · omega

/-- What is one away from a float, beyond `exactUnits`, is rounded to an even multiple of two. -/
theorem dvd_rounded {n : Nat} (divides : 2 * oneUnits ∣ n) (above : exactUnits ≤ p)
    (apart : p = n + oneUnits ∨ n = p + oneUnits) : 4 * oneUnits ∣ rounded p := by
  obtain steps | ⟨-, steps⟩ := spacing_cases above
  · have tie : 2 * (p % spacing p) = spacing p := by
      have positive := oneUnits_pos
      have next : 2 * oneUnits ∣ p % (2 * oneUnits) + oneUnits := by
        have whole : 2 * oneUnits ∣ p + oneUnits := by
          obtain same | same := apart
          · rw [same, Nat.add_assoc, ← Nat.two_mul]
            exact Nat.dvd_add divides (Nat.dvd_refl _)
          · rwa [← same]
        rw [Nat.dvd_iff_mod_eq_zero] at whole ⊢
        rwa [Nat.mod_add_mod]
      have less := Nat.mod_lt p (y := 2 * oneUnits) (by omega)
      have rest := Nat.eq_of_dvd_of_lt_two_mul (by omega) next (by omega)
      rw [steps]
      omega
    have even := rounded_tie tie
    rw [steps] at even
    rwa [← Nat.mul_assoc] at even
  · exact Nat.dvd_trans steps (spacing_dvd_rounded p)

/-- What is one away from an even multiple of two, where floats are two or more apart, is rounded
    to it. -/
theorem rounded_beside {n : Nat} (divides : spacing p ∣ n) (even : 4 * oneUnits ∣ n)
    (steps : 2 * oneUnits ≤ spacing p) (apart : p = n + oneUnits ∨ n = p + oneUnits) :
    rounded p = n := by
  have positive := oneUnits_pos
  apply rounded_eq_of_near divides
  · omega
  · omega
  · intro half
    have two : spacing p = 2 * oneUnits := by omega
    rwa [two, ← Nat.mul_assoc]

theorem dvd_min_infiniteUnits {n : Nat} (even : 4 * oneUnits ∣ n) :
    4 * oneUnits ∣ min n infiniteUnits := by
  obtain small | large := Nat.le_total n infiniteUnits
  · rwa [Nat.min_eq_left small]
  · rw [Nat.min_eq_right large]
    exact dvd_infiniteUnits

/-! ## Steps -/

/-- A whole number of units that a float has. -/
structure IsStored (n : Int) : Prop where
  precise : IsPrecise n.natAbs
  bounded : n.natAbs ≤ infiniteUnits

theorem nearestUnits_natCast (n : Nat) : nearestUnits n = (min (rounded n) infiniteUnits : Nat) :=
  nearestUnits_apply .positive n

theorem nearestUnits_neg (n : Nat) : nearestUnits (-n) = -(min (rounded n) infiniteUnits : Nat) :=
  nearestUnits_apply .negative n

/-- The sum is a natural that is rounded, or the opposite of one. -/
theorem following_cases (n : Int) :
    (∃ p : Nat, n + oneUnits = p ∧ following n = (min (rounded p) infiniteUnits : Nat)) ∨
      ∃ q : Nat, n + oneUnits = -q ∧ following n = -(min (rounded q) infiniteUnits : Nat) := by
  by_cases sign : 0 ≤ n + oneUnits
  · obtain ⟨p, same⟩ := Int.eq_ofNat_of_zero_le sign
    exact .inl ⟨p, same, by rw [following, same, nearestUnits_natCast]⟩
  · obtain ⟨q, same⟩ := Int.eq_ofNat_of_zero_le (a := -(n + oneUnits)) (by omega)
    have negative : n + oneUnits = -q := by omega
    exact .inr ⟨q, negative, by rw [following, negative, nearestUnits_neg]⟩

variable {n : Int}

/-- Counting does not go down. -/
theorem le_following (stored : IsStored n) : n ≤ following n := by
  obtain ⟨p, same, next⟩ | ⟨q, same, next⟩ := following_cases n
  · by_cases sign : 0 ≤ n
    · have reached : n.natAbs ≤ rounded p := le_rounded stored.precise (by omega)
      have bounded := stored.bounded
      omega
    · omega
  · have reached : rounded q ≤ n.natAbs := rounded_le stored.precise (by omega)
    omega

/-- Below `exactUnits`, counting does not go beyond it. -/
theorem following_le (below : n < exactUnits) : following n ≤ exactUnits := by
  obtain ⟨p, same, next⟩ | ⟨q, same, next⟩ := following_cases n
  · have reached : rounded p ≤ exactUnits := rounded_le_exactUnits (by omega)
    omega
  · omega

/-- Counting reaches the whole numbers that all are floats from two below them. -/
theorem neg_le_following (above : -(exactUnits + 2 * oneUnits : Nat) ≤ n) :
    -(exactUnits : Int) ≤ following n := by
  obtain ⟨p, same, next⟩ | ⟨q, same, next⟩ := following_cases n
  · omega
  · have reached : rounded q ≤ exactUnits := rounded_le_exactUnits (by omega)
    omega

/-- Between the whole numbers that all are floats, each step is a half at least. -/
theorem half_le_following (above : -(exactUnits : Int) ≤ n) (below : n < exactUnits) :
    following n = exactUnits ∨ 2 * n + oneUnits ≤ 2 * following n := by
  have positive := oneUnits_pos
  have finite := exactUnits_lt_infiniteUnits
  obtain ⟨p, same, next⟩ | ⟨q, same, next⟩ := following_cases n
  · by_cases inside : p < exactUnits
    · have near := (rounded_near p).2
      have steps := spacing_le_one inside
      omega
    · have reached : exactUnits ≤ rounded p := le_rounded isPrecise_exactUnits (by omega)
      have most : rounded p ≤ exactUnits := rounded_le_exactUnits (by omega)
      omega
  · have near := (rounded_near q).1
    have steps := spacing_le_one (p := q) (by omega)
    omega

/-! ## Standing still -/

/-- An even multiple of two, outside of the whole numbers that all are floats. -/
def IsFixed (n : Int) : Prop :=
  4 * oneUnits ∣ n.natAbs ∧ (exactUnits ≤ n ∨ n < -exactUnits)

/-- Outside of the whole numbers that all are floats, one step leads to an even multiple of two. -/
theorem isFixed_following (stored : IsStored n)
    (outside : exactUnits ≤ n ∨ n < -(exactUnits + 2 * oneUnits : Nat)) :
    IsFixed (following n) := by
  have finite := exactUnits_lt_infiniteUnits
  have exact := exactUnits_eq
  have positive := oneUnits_pos
  have divides : 2 * oneUnits ∣ n.natAbs := dvd_of_isPrecise stored.precise (by omega)
  obtain ⟨p, same, next⟩ | ⟨q, same, next⟩ := following_cases n
  · have even : 4 * oneUnits ∣ rounded p := dvd_rounded divides (by omega) (.inl (by omega))
    have reached : exactUnits ≤ rounded p := le_rounded isPrecise_exactUnits (by omega)
    rw [next]
    exact ⟨dvd_min_infiniteUnits even, .inl (by omega)⟩
  · have double : 2 * oneUnits ∣ exactUnits :=
      Nat.dvd_trans ⟨2, by omega⟩ dvd_exactUnits
    have next' : exactUnits + 2 * oneUnits + 2 * oneUnits ≤ n.natAbs :=
      add_le_of_dvd (Nat.dvd_add double (Nat.dvd_refl _)) divides (by omega)
    have even : 4 * oneUnits ∣ rounded q := dvd_rounded divides (by omega) (.inr (by omega))
    have beyond : exactUnits < rounded q := by
      obtain steps | ⟨far, -⟩ := spacing_cases (p := q) (by omega)
      · have near := (rounded_near q).2
        omega
      · have reached : 2 * exactUnits ≤ rounded q := le_rounded isPrecise_double far
        omega
    rw [next]
    refine ⟨?_, .inr (by omega)⟩
    rw [Int.natAbs_neg]
    exact dvd_min_infiniteUnits even

/-- From an even multiple of two, no step leads on. -/
theorem IsFixed.following_eq (fixed : IsFixed n) (stored : IsStored n) : following n = n := by
  have bounded := stored.bounded
  have exact := exactUnits_eq
  have positive := oneUnits_pos
  obtain ⟨even, outside⟩ := fixed
  obtain ⟨p, same, next⟩ | ⟨q, same, next⟩ := following_cases n
  · have steps := two_oneUnits_le_spacing (p := p) (by omega)
    have divides : spacing p ∣ n.natAbs := by
      have room := add_spacing_le stored.precise
      have steps' := two_oneUnits_le_spacing (p := n.natAbs) (by omega)
      have log2 : p.log2 ≤ n.natAbs.log2 :=
        Nat.le_of_lt_succ ((Nat.log2_lt (by omega)).mpr (by omega))
      exact Nat.dvd_trans (spacing_dvd log2) stored.precise
    have stays : rounded p = n.natAbs := rounded_beside divides even steps (.inl (by omega))
    omega
  · have far : exactUnits + 4 * oneUnits ≤ n.natAbs :=
      add_le_of_dvd dvd_exactUnits even (by omega)
    have steps := two_oneUnits_le_spacing (p := q) (by omega)
    have divides : spacing q ∣ n.natAbs :=
      Nat.dvd_trans (spacing_dvd (log2_mono (by omega))) stored.precise
    have stays : rounded q = n.natAbs := rounded_beside divides even steps (.inr (by omega))
    omega

/-! ## Floats -/

open Float.Model Float.Model.UnpackedFloat

theorem IsStored.apply {n : Nat} (sign : Sign) (precise : IsPrecise n)
    (bounded : n ≤ infiniteUnits) : IsStored (sign.apply n) where
  precise := by rwa [natAbs_apply]
  bounded := by rwa [natAbs_apply]

theorem isStored_units (x : Float) : IsStored (units x) := by
  have canonical := isCanonical_float x
  rw [units]
  generalize x.toModel.unpack = unpacked at canonical
  cases unpacked with
  | notANumber | zero => exact ⟨Nat.dvd_zero _, Nat.zero_le _⟩
  | infinity sign => exact .apply sign isPrecise_infiniteUnits (Nat.le_refl _)
  | finite sign m e positive =>
      exact .apply sign (isPrecise_magnitude canonical)
        (Nat.le_of_lt (magnitude_lt_infiniteUnits canonical))

theorem unpack_one : (1 : Float).toModel.unpack = .finite .positive (2 ^ 52) (-52) (by decide) :=
  rfl

theorem unpack_exact :
    (9007199254740992 : Float).toModel.unpack = .finite .positive (2 ^ 52) 1 (by decide) :=
  rfl

theorem unpack_neg :
    (-9007199254740994 : Float).toModel.unpack = .finite .negative (2 ^ 52 + 1) 1 (by decide) :=
  rfl

theorem units_one : units 1 = oneUnits := by
  have exponent : 52 + (-52 + 1074 : Int).toNat = oneExponent := oneExponent_eq.symm
  rw [units_of_finite unpack_one, magnitude, ← Nat.pow_add, exponent, Sign.apply, oneUnits]

theorem units_exact : units 9007199254740992 = exactUnits := by
  have exponent : 52 + (1 + 1074 : Int).toNat = oneExponent + 1 + 52 := by
    rw [oneExponent_eq]
    rfl
  rw [units_of_finite unpack_exact, magnitude, ← Nat.pow_add, exponent, Sign.apply, exactUnits]

theorem units_neg : units (-9007199254740994) = -(exactUnits + 2 * oneUnits : Nat) := by
  have exponent : (1 + 1074 : Int).toNat = 1 + oneExponent := by
    rw [oneExponent_eq]
    rfl
  have digits : (2 ^ 52 + 1) * 2 ^ 1 = 9007199254740992 + 2 := rfl
  rw [units_of_finite unpack_neg, magnitude, exponent, Sign.apply, exactUnits_eq, Nat.pow_add,
    ← oneUnits, ← Nat.mul_assoc, ← Nat.add_mul, digits]

variable {x start stop : Float}

theorem isFixed_infinite (sign : Sign) : IsFixed (sign.apply infiniteUnits) := by
  have finite := exactUnits_lt_infiniteUnits
  cases sign with
  | negative =>
      rw [Sign.apply]
      refine ⟨?_, .inr (by omega)⟩
      rw [Int.natAbs_neg]
      exact dvd_infiniteUnits
  | positive => exact ⟨dvd_infiniteUnits, .inl (by rw [Sign.apply]; omega)⟩

/-- To add one to a number is to go on to the units that follow. -/
theorem units_add_one (number : IsNumber x) :
    IsNumber (x + 1) ∧ units (x + 1) = following (units x) := by
  have number' := isNumber_of_finite unpack_one
  have finite' := not_isInfinite_of_finite unpack_one
  by_cases infinite : IsInfinite x
  · rw [add_infinite infinite number' finite']
    refine ⟨number, (IsFixed.following_eq ?_ (isStored_units x)).symm⟩
    obtain ⟨sign, same⟩ := infinite
    rw [units, same, unitsOf]
    exact isFixed_infinite sign
  · rw [following, ← units_one]
    exact units_add number number' infinite finite'

theorem isNumber_of_add_one (number : IsNumber (x + 1)) : IsNumber x := by
  intro nan
  have kept : stored .notANumber = .notANumber := stored_eq trivial
  apply number
  rw [unpack_add, nan]
  exact kept

theorem isNumber_iterate (number : IsNumber x) (k : Nat) : IsNumber ((· + 1)^[k] x) := by
  induction k with
  | zero => exact number
  | succ k ih =>
      rw [Function.iterate_succ_apply']
      exact (units_add_one ih).1

theorem units_iterate_succ (number : IsNumber x) (k : Nat) :
    units ((· + 1)^[k + 1] x) = following (units ((· + 1)^[k] x)) := by
  rw [Function.iterate_succ_apply']
  exact (units_add_one (isNumber_iterate number k)).2

/-- From an even multiple of two, counting never leads on. -/
theorem IsFixed.iterate (fixed : IsFixed (units x)) (number : IsNumber x) (k : Nat) :
    units ((· + 1)^[k] x) = units x := by
  induction k with
  | zero => rfl
  | succ k ih => rw [units_iterate_succ number, ih, fixed.following_eq (isStored_units x)]

theorem isFixed_exactUnits : IsFixed exactUnits :=
  ⟨dvd_exactUnits, .inl (Int.le_refl _)⟩

theorem isStored_exactUnits : IsStored exactUnits :=
  units_exact ▸ isStored_units _

/-- Counting that starts before the whole numbers that all are floats, or among them, does not lead
    beyond them. -/
theorem iterate_le (below : units x ≤ exactUnits) (number : IsNumber x) (k : Nat) :
    units ((· + 1)^[k] x) ≤ exactUnits := by
  induction k with
  | zero => exact below
  | succ k ih =>
      rw [units_iterate_succ number]
      obtain less | same := Int.lt_or_eq_of_le ih
      · exact following_le less
      · rw [same, isFixed_exactUnits.following_eq isStored_exactUnits]

/-- Counting among the whole numbers that all are floats leads on by halves, if not to the last. -/
theorem le_iterate (above : -(exactUnits : Int) ≤ units x) (number : IsNumber x) (k : Nat) :
    exactUnits ≤ units ((· + 1)^[k] x) ∨
      2 * units x + (k * oneUnits : Nat) ≤ 2 * units ((· + 1)^[k] x) := by
  induction k with
  | zero => simp
  | succ k ih =>
      rw [units_iterate_succ number, Nat.succ_mul]
      have stays := le_following (isStored_units ((· + 1)^[k] x))
      by_cases below : units ((· + 1)^[k] x) < exactUnits
      · obtain last | half := half_le_following (by omega) below
        · omega
        · omega
      · omega

/-- The last of the whole numbers that all are floats is reached from two before them. -/
theorem exists_exactUnits_le (above : -(exactUnits + 2 * oneUnits : Nat) ≤ units x)
    (number : IsNumber x) : ∃ k ≤ 2 ^ 56, exactUnits ≤ units ((· + 1)^[k] x) := by
  obtain ⟨number', next⟩ := units_add_one number
  have reached := neg_le_following above
  refine ⟨2 ^ 55 + 1, by norm_num, ?_⟩
  rw [Function.iterate_succ_apply]
  obtain done | far := le_iterate (x := x + 1) (by omega) number' (2 ^ 55)
  · exact done
  · have exact := exactUnits_eq
    omega

/-- Counting up to a bound ends after one step, or if the bound is among the whole numbers that all
    are floats and the start is at most two below them. -/
theorem exists_not_iterate_lt (ends : ¬start + 1 < stop ∨
      -9007199254740994 ≤ start ∧ stop ≤ 9007199254740992) :
    ∃ k ≤ 2 ^ 56, ¬(· + 1)^[k] start < stop := by
  obtain one | ⟨above, below⟩ := ends
  · exact ⟨1, by norm_num, one⟩
  · obtain ⟨-, number, above⟩ := le_iff_units.mp above
    obtain ⟨-, -, below⟩ := le_iff_units.mp below
    rw [units_neg] at above
    rw [units_exact] at below
    obtain ⟨k, bounded, reached⟩ := exists_exactUnits_le above number
    refine ⟨k, bounded, fun less => ?_⟩
    have short := (lt_iff_units.mp less).2.2
    omega

/-- In all other cases, the bound is never reached. -/
theorem iterate_lt (next : start + 1 < stop)
    (beyond : ¬(-9007199254740994 ≤ start ∧ stop ≤ 9007199254740992)) (k : Nat) :
    (· + 1)^[k] start < stop := by
  obtain ⟨number', numberStop, less⟩ := lt_iff_units.mp next
  have number := isNumber_of_add_one number'
  have same := (units_add_one number).2
  refine lt_iff_units.mpr ⟨isNumber_iterate number k, numberStop, ?_⟩
  by_cases outside : exactUnits ≤ units start ∨ units start < -(exactUnits + 2 * oneUnits : Nat)
  · cases k with
    | zero => exact Int.lt_of_le_of_lt (same ▸ le_following (isStored_units start)) less
    | succ k =>
        have fixed : IsFixed (units (start + 1)) :=
          same ▸ isFixed_following (isStored_units start) outside
        rw [Function.iterate_succ_apply, fixed.iterate number']
        exact less
  · have above : -9007199254740994 ≤ start :=
      le_iff_units.mpr ⟨isNumber_of_finite unpack_neg, number, by rw [units_neg]; omega⟩
    have far : exactUnits < units stop := by
      by_contra below
      exact beyond ⟨above, le_iff_units.mpr
        ⟨numberStop, isNumber_of_finite unpack_exact, by rw [units_exact]; omega⟩⟩
    have bound := iterate_le (by omega) number k
    omega

end TreeMacros.Binary
