import TreeMacros.Proofs.Decimal.Grammar

/-! # The number at the start of a text

The number at the start of a text is what the longest numeral there stands for, or infinity if its
name is there, and NaN if there is neither. An integer is read in the same way. The reader of whole
texts accepts all numerals and reads the same numbers.
-/

namespace TreeMacros.Decimal

/-- The name of infinity with an optional sign is at the start of a text. -/
def NamesInfinity (cs : List Char) (negative : Bool) : Prop :=
  ∃ signs, Signs signs negative ∧ signs ++ infinityWord <+: cs

/-- What the start of a text stands for as a number. -/
inductive NumberValue (cs : List Char) : Float → Prop where
  | infinite {negative : Bool} (named : NamesInfinity cs negative) :
    NumberValue cs (infinity negative)
  | finite {front : List Char} {l : Literal} (longest : IsLongest Numeral cs front l) :
    NumberValue cs l.toFloat
  | nothing (unnamed : ∀ negative, ¬NamesInfinity cs negative)
    (bare : ∀ front l, Numeral front l → ¬front <+: cs) : NumberValue cs nan

/-- What the start of a text stands for as an integer. -/
inductive IntegerValue (cs : List Char) : Float → Prop where
  | whole {front : List Char} {l : Literal} (longest : IsLongest Integral cs front l) :
    IntegerValue cs l.toFloat
  | nothing (bare : ∀ front l, Integral front l → ¬front <+: cs) : IntegerValue cs nan

variable {cs front : List Char} {l : Literal} {negative : Bool} {x : Float}

/-! ## Infinity -/

theorem infinityWord_isUnsigned (behind : List Char) : IsUnsigned (infinityWord ++ behind) := by
  rintro c ⟨⟩
  decide

theorem namesInfinity_iff :
    NamesInfinity cs negative ↔
      infinityWord <+: (readSign cs).2 ∧ negative = (readSign cs).1 := by
  constructor
  · rintro ⟨signs, signed, behind, rfl⟩
    rw [List.append_assoc, readSign_signs signed (infinityWord_isUnsigned behind)]
    exact ⟨⟨behind, rfl⟩, rfl⟩
  · rintro ⟨⟨behind, word⟩, rfl⟩
    obtain ⟨signs, signed, split⟩ := readSign_sound cs
    refine ⟨signs, signed, behind, ?_⟩
    rw [List.append_assoc, word]
    exact split.symm

/-- The name of infinity is no numeral. -/
theorem leading?_infinity (named : infinityWord <+: (readSign cs).2) : leading? cs = none := by
  obtain ⟨behind, word⟩ := named
  rw [leading?_eq, ← word]
  rfl

/-! ## Values -/

/-- The number at the start of a text is its value by the rules, and there is no other one. -/
theorem numberValue_iff (s : String) :
    NumberValue (Text.trimStart s.toList) x ↔ x = numberPrefix s := by
  unfold numberPrefix
  generalize Text.trimStart s.toList = cs
  dsimp only
  by_cases named : infinityWord.isPrefixOf (readSign cs).2 = true
  · rw [if_pos named]
    rw [List.isPrefixOf_iff_prefix] at named
    have unread := leading?_infinity named
    constructor
    · rintro (⟨names⟩ | ⟨longest⟩ | ⟨unnamed, -⟩)
      · rw [(namesInfinity_iff.mp names).2]
      · obtain ⟨rest, returned, -⟩ := reads_numeral.isLongest_iff.mp longest
        rw [unread] at returned
        cases returned
      · exact (unnamed _ (namesInfinity_iff.mpr ⟨named, rfl⟩)).elim
    · rintro rfl
      exact .infinite (namesInfinity_iff.mpr ⟨named, rfl⟩)
  · rw [if_neg named]
    rw [List.isPrefixOf_iff_prefix] at named
    have unnamed : ∀ negative, ¬NamesInfinity cs negative :=
      fun negative names => named (namesInfinity_iff.mp names).1
    constructor
    · rintro (⟨names⟩ | ⟨longest⟩ | ⟨-, bare⟩)
      · exact (unnamed _ names).elim
      · obtain ⟨rest, returned, -⟩ := reads_numeral.isLongest_iff.mp longest
        rw [returned]
      · rw [reads_numeral.eq_none_iff.mpr bare]
    · rintro rfl
      cases returned : leading? cs with
      | none => exact .nothing unnamed (reads_numeral.eq_none_iff.mp returned)
      | some found =>
          obtain ⟨l, rest⟩ := found
          obtain ⟨front, -, split⟩ := reads_numeral.sound returned
          exact .finite (reads_numeral.isLongest_iff.mpr ⟨rest, returned, split⟩)

theorem integerPrefix_eq (s : String) :
    integerPrefix s =
      (leadingInteger? (Text.trimStart s.toList)).elim nan fun (l, _) => l.toFloat := by
  simp only [integerPrefix, leadingInteger?]
  split <;> rfl

theorem integerValue_iff (s : String) :
    IntegerValue (Text.trimStart s.toList) x ↔ x = integerPrefix s := by
  rw [integerPrefix_eq]
  generalize Text.trimStart s.toList = cs
  constructor
  · rintro (⟨longest⟩ | ⟨bare⟩)
    · obtain ⟨rest, returned, -⟩ := reads_integral.isLongest_iff.mp longest
      rw [returned]
      rfl
    · rw [reads_integral.eq_none_iff.mpr bare]
      rfl
  · rintro rfl
    cases returned : leadingInteger? cs with
    | none => exact .nothing (reads_integral.eq_none_iff.mp returned)
    | some found =>
        obtain ⟨l, rest⟩ := found
        obtain ⟨front, -, split⟩ := reads_integral.sound returned
        exact .whole (reads_integral.isLongest_iff.mpr ⟨rest, returned, split⟩)

/-! ## Whole texts -/

theorem numeral_of_isDigits {digits : List Char} (all : IsDigits digits) :
    Numeral digits ⟨false, natOfDigits digits, 0⟩ := by
  have numeral := Numeral.mk .none (.whole all) .none
  simpa using numeral

theorem toNat_of_isDigit {c : Char} (digit : isDigit c = true) :
    48 ≤ c.toNat ∧ c.toNat < 58 := by
  simp only [isDigit, Bool.and_eq_true, decide_eq_true_eq] at digit
  have low : 48 ≤ c.val.toNat := digit.1
  have high : c.val.toNat ≤ 57 := digit.2
  exact ⟨low, Nat.lt_succ_of_le high⟩

/-- The first character of a numeral behind its sign stands before all letters. -/
theorem Positional.first {digits whole fraction : List Char}
    (positional : Positional digits whole fraction) (behind : List Char) :
    ∃ c ∈ (digits ++ behind).head?, c.toNat < 58 := by
  have first {digits : List Char} (all : IsDigits digits) (behind : List Char) :
      ∃ c ∈ (digits ++ behind).head?, c.toNat < 58 := by
    obtain ⟨some, digit⟩ := all
    obtain ⟨c, others, rfl⟩ := List.exists_cons_of_ne_nil some
    exact ⟨c, rfl, (toNat_of_isDigit (digit c List.mem_cons_self)).2⟩
  cases positional with
  | whole all => exact first all behind
  | pointed all | both all =>
      rw [List.append_assoc]
      exact first all _
  | fraction => exact ⟨'.', rfl, by decide⟩

/-- What does not start with a letter is no name. -/
theorem lower_ne {cs : List Char} (first : ∃ c ∈ cs.head?, c.toNat < 58) {name : String}
    {letter : Char} (starts : name.toList.head? = some letter) (isLetter : 58 ≤ letter.toNat) :
    String.ofList (cs.map Char.toLower) ≠ name := by
  rintro rfl
  obtain ⟨c, head, small⟩ := first
  have same : c.toLower = c := by
    refine dif_neg fun upper => ?_
    have large : 65 ≤ c.val.toNat := upper.1
    exact absurd small (Nat.not_lt.mpr (Nat.le_trans (by decide) large))
  rw [String.toList_ofList, List.head?_map, Option.mem_def.mp head, Option.map_some,
    Option.some.injEq, same] at starts
  exact absurd small (starts ▸ Nat.not_lt.mpr isLetter)

/-- The reader of whole texts reads a numeral. -/
theorem ofText?_numeral (numeral : Numeral front l) : ofText? front = some l.toFloat := by
  have whole := reads_numeral.whole numeral
  obtain ⟨signed, positional, scaled⟩ := numeral
  rename_i signs digits exponent _ _ negative _
  have first := positional.first exponent
  have noName {name : String} (letter : Char) (starts : name.toList.head? = some letter)
      (isLetter : 58 ≤ letter.toNat) :
      ¬(String.ofList ((digits ++ exponent).map Char.toLower) == name) = true := by
    rw [beq_iff_eq]
    exact lower_ne first starts isLetter
  rw [ofText?, readSign_signs signed (positional.isUnsigned exponent)]
  dsimp only
  rw [if_neg, if_neg (noName 'n' rfl (by decide)), whole]
  rw [Bool.or_eq_true, not_or]
  exact ⟨noName 'i' rfl (by decide), noName 'i' rfl (by decide)⟩

end TreeMacros.Decimal
