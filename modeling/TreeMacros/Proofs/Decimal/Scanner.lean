import TreeMacros.Decimal.Scanner
import TreeMacros.Proofs.Decimal.Prefix
import TreeMacros.Proofs.Decimal.Signed

/-! # Scanning and reading

A scan over bytes passes ASCII characters only. So it stops at a place between characters, which is
the place where reading character by character stops, and the piece in front of it is a numeral.
-/

namespace TreeMacros

namespace Text

/-! ## Bytes of characters -/

variable {c : Char} {cs : List Char}

/-- The character has a byte of its own. -/
def IsAscii (c : Char) : Prop :=
  c.toNat < 128

instance : DecidablePred IsAscii :=
  fun c => inferInstanceAs (Decidable (c.toNat < 128))

theorem bytes_append (front rest : List Char) : bytes (front ++ rest) = bytes front ++ bytes rest :=
  List.flatMap_append

theorem size_append (front rest : List Char) : size (front ++ rest) = size front + size rest := by
  rw [size, bytes_append, List.length_append, size, size]

theorem size_cons (c : Char) (cs : List Char) : size (c :: cs) = c.utf8Size + size cs := by
  rw [size, bytes, List.flatMap_cons, List.length_append, String.length_utf8EncodeChar]
  rfl

theorem size_ascii (all : ∀ c ∈ cs, IsAscii c) : size cs = cs.length := by
  induction cs with
  | nil => rfl
  | cons c cs ih =>
      rw [List.forall_mem_cons] at all
      have one : c.utf8Size = 1 := Char.utf8Size_eq_one_iff.mpr (Nat.le_of_lt_succ all.1)
      rw [size_cons, ih all.2, one, List.length_cons, Nat.add_comm]

theorem toNat_ofUInt8 {n : Nat} (fits : n < 256) :
    (Char.ofUInt8 (UInt8.ofNat n)).toNat = n := by
  show (UInt8.ofNat n).toUInt32.toNat = n
  rw [UInt8.toNat_toUInt32, UInt8.toNat_ofNat_of_lt' fits]

/-- The first byte of a character is the character itself, or none of ASCII. -/
theorem first_byte (c : Char) :
    ∃ b others, String.utf8EncodeChar c = b :: others ∧
      (Char.ofUInt8 b = c ∨ 128 ≤ c.toNat ∧ 128 ≤ (Char.ofUInt8 b).toNat) := by
  by_cases ascii : c.toNat < 128
  · refine ⟨_, [], if_pos (Nat.le_of_lt_succ ascii), .inl (Char.toNat_inj.mp ?_)⟩
    exact toNat_ofUInt8 (Nat.lt_trans ascii (by decide))
  · have large : ¬c.val.toNat ≤ 127 := fun small => ascii (Nat.lt_succ_of_le small)
    have outside {n : Nat} (low : 128 ≤ n) (fits : n < 256) :
        128 ≤ (Char.ofUInt8 (UInt8.ofNat n)).toNat := by
      rwa [toNat_ofUInt8 fits]
    unfold String.utf8EncodeChar
    dsimp only
    rw [if_neg large]
    split
    · exact ⟨_, _, rfl, .inr ⟨by omega, outside (by omega) (by omega)⟩⟩
    · split
      · exact ⟨_, _, rfl, .inr ⟨by omega, outside (by omega) (by omega)⟩⟩
      · exact ⟨_, _, rfl, .inr ⟨by omega, outside (by omega) (by omega)⟩⟩

/-- A text is cut behind the bytes of its front. -/
theorem cut?_append (front rest : List Char) :
    cut? (front ++ rest) (size front) = some (front, rest) := by
  induction front with
  | nil => rw [List.nil_append, size, bytes, List.flatMap_nil, List.length_nil, cut?]
  | cons c front ih =>
      have positive := c.utf8Size_pos
      obtain ⟨count, same⟩ : ∃ count, size (c :: front) = count + 1 :=
        Nat.exists_eq_succ_of_ne_zero (by rw [size_cons]; omega)
      have total := size_cons c front
      have rest : count + 1 - c.utf8Size = size front := by omega
      rw [same, List.cons_append, cut?, if_pos (by omega), rest, ih]
      rfl

end Text

namespace Decimal

open Text

variable {cs rest : List Char} {place : Nat}

/-! ## Places between characters -/

/-- The rest of a text begins at a place, and what is in front of it are ASCII characters. -/
def StandsAt (cs : List Char) (place : Nat) (rest : List Char) : Prop :=
  ∃ front, cs = front ++ rest ∧ (∀ c ∈ front, IsAscii c) ∧ front.length = place

namespace StandsAt

theorem start (cs : List Char) : StandsAt cs 0 cs :=
  ⟨[], rfl, List.forall_mem_nil _, rfl⟩

theorem next {c : Char} (stands : StandsAt cs place (c :: rest)) (ascii : IsAscii c) :
    StandsAt cs (place + 1) rest := by
  obtain ⟨front, rfl, all, rfl⟩ := stands
  refine ⟨front ++ [c], by simp, ?_, by simp⟩
  rw [List.forall_mem_append, List.forall_mem_singleton]
  exact ⟨all, ascii⟩

/-- At such a place the text is cut. -/
theorem cut (stands : StandsAt cs place rest) :
    ∃ front, cs = front ++ rest ∧ cut? cs place = some (front, rest) := by
  obtain ⟨front, rfl, all, rfl⟩ := stands
  refine ⟨front, rfl, ?_⟩
  rw [← size_ascii all, cut?_append]

/-- The byte at such a place is of a kind of ASCII characters if the next character is. -/
theorem isAt {kind : Char → Bool} (ascii : ∀ c, kind c = true → IsAscii c)
    (stands : StandsAt cs place rest) : isAt kind (bytes cs) place = rest.head?.any kind := by
  obtain ⟨front, rfl, all, rfl⟩ := stands
  have length : (bytes front).length = front.length := size_ascii all
  rw [Decimal.isAt, bytes_append, List.getElem?_append_right (Nat.le_of_eq length), length,
    Nat.sub_self]
  cases rest with
  | nil => rfl
  | cons c rest =>
      obtain ⟨b, others, encoded, same⟩ := first_byte c
      rw [bytes, List.flatMap_cons, encoded]
      show kind (Char.ofUInt8 b) = kind c
      obtain same | ⟨large, large'⟩ := same
      · rw [same]
      · have other {c : Char} (large : 128 ≤ c.toNat) : kind c = false :=
          Bool.eq_false_iff.mpr fun passes => Nat.not_lt.mpr large (ascii c passes)
        rw [other large, other large']

end StandsAt

/-! ## Kinds of characters -/

theorem isAscii_digit (c : Char) (digit : isDigit c = true) : IsAscii c :=
  Nat.lt_trans (toNat_of_isDigit digit).2 (by decide)

theorem isAscii_beq {d : Char} (ascii : IsAscii d) (c : Char) (same : (c == d) = true) :
    IsAscii c := by
  rwa [beq_iff_eq.mp same]

theorem isAscii_sign (c : Char) (sign : isSign c = true) : IsAscii c :=
  ((Bool.or_eq_true _ _).mp sign).elim (isAscii_beq (by decide) c) (isAscii_beq (by decide) c)

theorem isAscii_mark (c : Char) (mark : isMark c = true) : IsAscii c :=
  ((Bool.or_eq_true _ _).mp mark).elim (isAscii_beq (by decide) c) (isAscii_beq (by decide) c)

theorem readSign_cons {c : Char} (sign : isSign c = true) (cs : List Char) :
    readSign (c :: cs) = (c == '-', cs) := by
  obtain rfl | rfl : c = '+' ∨ c = '-' := by simpa [isSign] using sign
  · rfl
  · rfl

theorem isUnsigned_cons {c : Char} (other : ¬isSign c = true) (cs : List Char) :
    IsUnsigned (c :: cs) := by
  rintro _ ⟨⟩
  simpa [isSign, not_or] using other

theorem readSign_negative (cs : List Char) : (readSign cs).1 = (cs.head? == some '-') := by
  cases cs with
  | nil => rfl
  | cons c cs =>
      by_cases sign : isSign c = true
      · rw [readSign_cons sign]
        rfl
      · have bare := isUnsigned_cons sign cs
        have other : c ≠ '-' := (bare c rfl).2
        rw [readSign_unsigned bare]
        simp [other]

/-! ## Scans -/

theorem digitsEnd_eq (bytes : List UInt8) (place : Nat) :
    digitsEnd bytes place =
      if isAt isDigit bytes place then digitsEnd bytes (place + 1) else place := by
  have inside : isAt isDigit bytes place = true → place < bytes.length := by
    intro digit
    by_contra outside
    rw [isAt, List.getElem?_eq_none (Nat.le_of_not_lt outside)] at digit
    cases digit
  rw [digitsEnd]
  by_cases digit : isAt isDigit bytes place = true
  · rw [if_pos ⟨inside digit, digit⟩, if_pos digit]
  · rw [if_neg (fun both => digit both.2), if_neg digit]

namespace StandsAt

theorem digitsEnd (stands : StandsAt cs place rest) :
    Decimal.digitsEnd (bytes cs) place = place + (readDigits rest).1.length ∧
      StandsAt cs (Decimal.digitsEnd (bytes cs) place) (readDigits rest).2 := by
  induction rest generalizing place with
  | nil =>
      rw [digitsEnd_eq, stands.isAt isAscii_digit]
      exact ⟨rfl, stands⟩
  | cons c rest ih =>
      rw [digitsEnd_eq, stands.isAt isAscii_digit]
      by_cases digit : isDigit c = true
      · obtain ⟨length, stands'⟩ := ih (stands.next (isAscii_digit c digit))
        have read : readDigits (c :: rest) = (c :: (readDigits rest).1, (readDigits rest).2) := by
          simp [readDigits, digit]
        rw [List.head?_cons, Option.any_some, if_pos digit, read, List.length_cons]
        exact ⟨by omega, stands'⟩
      · rw [List.head?_cons, Option.any_some, if_neg digit,
          readDigits_cons (Bool.eq_false_iff.mpr digit)]
        exact ⟨rfl, stands⟩

theorem signEnd (stands : StandsAt cs place rest) :
    StandsAt cs (Decimal.signEnd (bytes cs) place) (readSign rest).2 := by
  rw [Decimal.signEnd, stands.isAt isAscii_sign]
  cases rest with
  | nil => exact stands
  | cons c rest =>
      rw [List.head?_cons, Option.any_some]
      by_cases sign : isSign c = true
      · rw [if_pos sign, readSign_cons sign]
        exact stands.next (isAscii_sign c sign)
      · rw [if_neg sign, readSign_unsigned (isUnsigned_cons sign rest)]
        exact stands

theorem positionalEnd (stands : StandsAt cs place rest) :
    (Decimal.positionalEnd (bytes cs) place).1 =
        (readPositional rest).1.length + (readPositional rest).2.1.length ∧
      (0 < (Decimal.positionalEnd (bytes cs) place).1 →
        StandsAt cs (Decimal.positionalEnd (bytes cs) place).2 (readPositional rest).2.2) := by
  obtain ⟨length, stands⟩ := stands.digitsEnd
  unfold Decimal.positionalEnd readPositional
  dsimp only
  rw [stands.isAt (isAscii_beq (by decide))]
  generalize Decimal.digitsEnd (bytes cs) place = point at *
  generalize (readDigits rest).1 = whole at *
  generalize (readDigits rest).2 = behind at *
  by_cases pointed : behind.head? = '.'
  · obtain ⟨after, rfl⟩ := List.head?_eq_some_iff.mp pointed
    obtain ⟨length', stands'⟩ := (stands.next (by decide)).digitsEnd
    have read : readFraction ('.' :: after) = readDigits after := rfl
    have isPoint : ('.' :: after).head?.any (· == '.') = true := rfl
    rw [read, if_pos isPoint]
    dsimp only
    refine ⟨by omega, fun some => ?_⟩
    rw [if_pos some]
    exact stands'
  · have other : ¬behind.head?.any (· == '.') = true := by
      cases behind with
      | nil => exact Bool.false_ne_true
      | cons c behind => simpa using pointed
    have read : readFraction behind = ([], behind) :=
      readFraction_other fun c first same => pointed (by rw [Option.mem_def.mp first, same])
    rw [read, if_neg other]
    exact ⟨by rw [List.length_nil]; omega, fun _ => stands⟩

theorem exponentEnd (stands : StandsAt cs place rest) :
    StandsAt cs (Decimal.exponentEnd (bytes cs) place) (readExponent rest).2 := by
  rw [Decimal.exponentEnd, stands.isAt isAscii_mark]
  cases rest with
  | nil => exact stands
  | cons mark rest =>
      have read : (readExponent (mark :: rest)).2 =
          if isMark mark then
            if (readDigits (readSign rest).2).1.isEmpty then mark :: rest
            else (readDigits (readSign rest).2).2
          else mark :: rest := by
        unfold readExponent isMark
        dsimp only
        split
        · split <;> rfl
        · rfl
      rw [List.head?_cons, Option.any_some, read]
      by_cases marks : isMark mark = true
      · obtain ⟨length, stands'⟩ := (stands.next (isAscii_mark mark marks)).signEnd.digitsEnd
        rw [if_pos marks, if_pos marks]
        dsimp only
        by_cases none : (readDigits (readSign rest).2).1.isEmpty = true
        · rw [List.isEmpty_iff.mp none, List.length_nil] at length
          rw [if_pos none, if_neg (by omega)]
          exact stands
        · have some := List.length_pos_of_ne_nil (mt List.isEmpty_iff.mpr none)
          rw [if_neg none, if_pos (by omega)]
          exact stands'
      · rw [if_neg marks, if_neg marks]
        exact stands

end StandsAt

/-- The scan for a numeral stops where reading stops, and finds nothing where nothing is read. -/
theorem numeralEnd?_stands (cs : List Char) :
    match leading? cs with
    | some (_, rest) => ∃ place, numeralEnd? (bytes cs) = some place ∧ StandsAt cs place rest
    | none => numeralEnd? (bytes cs) = none := by
  obtain ⟨digits, stands⟩ := (StandsAt.start cs).signEnd.positionalEnd
  rw [leading?_eq, numeralEnd?]
  generalize positionalEnd (bytes cs) (signEnd (bytes cs) 0) = found at *
  generalize readPositional (readSign cs).2 = parts at *
  obtain ⟨count, place⟩ := found
  obtain ⟨whole, fraction, rest⟩ := parts
  dsimp only at *
  by_cases none : count = 0
  · have nothing : (whole.isEmpty && fraction.isEmpty) = true := by
      rw [Bool.and_eq_true, List.isEmpty_iff_length_eq_zero, List.isEmpty_iff_length_eq_zero]
      omega
    rw [if_pos nothing, if_pos none]
  · have something : ¬(whole.isEmpty && fraction.isEmpty) = true := by
      rw [Bool.and_eq_true, List.isEmpty_iff_length_eq_zero, List.isEmpty_iff_length_eq_zero]
      omega
    rw [if_neg something, if_neg none]
    exact ⟨_, rfl, (stands (Nat.pos_of_ne_zero none)).exponentEnd⟩

/-! ## Infinity -/

/-- The text behind all signs starts with the name of infinity, and there is at most one of them, if
    the name stands behind an optional sign. -/
theorem infinity_selected_iff (cs : List Char) :
    (infinityWord.isPrefixOf (cs.dropWhile isSign) &&
        Text.size cs - Text.size (cs.dropWhile isSign) ≤ 1) = true ↔
      infinityWord <+: (readSign cs).2 := by
  rw [Bool.and_eq_true, List.isPrefixOf_iff_prefix, decide_eq_true_iff]
  cases cs with
  | nil =>
      have unnamed : ¬infinityWord <+: [] := fun named => nomatch List.prefix_nil.mp named
      exact ⟨fun selected => (unnamed selected.1).elim, fun named => (unnamed named).elim⟩
  | cons c cs =>
      by_cases sign : isSign c = true
      · have one : c.utf8Size = 1 :=
          Char.utf8Size_eq_one_iff.mpr (Nat.le_of_lt_succ (isAscii_sign c sign))
        have split := List.takeWhile_append_dropWhile (p := isSign) (l := cs)
        have total : Text.size cs =
            Text.size (cs.takeWhile isSign) + Text.size (cs.dropWhile isSign) := by
          rw [← size_append, split]
        rw [List.dropWhile_cons_of_pos sign, readSign_cons sign, size_cons, one]
        by_cases single : cs.takeWhile isSign = []
        · rw [single, List.nil_append] at split
          rw [split]
          exact ⟨And.left, fun named => ⟨named, by omega⟩⟩
        · -- Behind a second sign there is a name of infinity for neither of both.
          obtain ⟨d, others, more⟩ := List.exists_cons_of_ne_nil single
          have unnamed : ¬infinityWord <+: cs := by
            rintro ⟨behind, rfl⟩
            exact single rfl
          have second := d.utf8Size_pos
          rw [more, size_cons] at total
          exact ⟨fun selected => by omega, fun named => (unnamed named).elim⟩
      · rw [List.dropWhile_cons_of_neg sign, readSign_unsigned (isUnsigned_cons sign cs)]
        exact ⟨And.left, fun named => ⟨named, by omega⟩⟩

/-! ## Selections -/

theorem selectNumber?_value (cs : List Char) :
    ∃ selection, selectNumber? cs = some selection ∧ NumberValue cs selection.value ∧
      ∀ piece ∈ selection.piece?, ∃ l, IsLongest Numeral cs piece l ∧
        ofText? piece = some l.toFloat := by
  unfold selectNumber?
  dsimp only
  by_cases named : infinityWord <+: (readSign cs).2
  · rw [if_pos ((infinity_selected_iff cs).mpr named), ← readSign_negative]
    exact ⟨_, rfl, .infinite (namesInfinity_iff.mpr ⟨named, rfl⟩), nofun⟩
  · rw [if_neg (mt (infinity_selected_iff cs).mp named)]
    have unnamed : ∀ negative, ¬NamesInfinity cs negative :=
      fun negative names => named (namesInfinity_iff.mp names).1
    have stands := numeralEnd?_stands cs
    cases read : leading? cs with
    | none =>
        rw [read] at stands
        rw [stands]
        exact ⟨.nothing, rfl, .nothing unnamed (reads_numeral.eq_none_iff.mp read), nofun⟩
    | some found =>
        obtain ⟨l, rest⟩ := found
        rw [read] at stands
        obtain ⟨place, ended, stands⟩ := stands
        obtain ⟨piece, split, cut⟩ := stands.cut
        have longest := reads_numeral.isLongest_iff.mpr ⟨rest, read, split⟩
        have converted := ofText?_numeral longest.holds
        rw [ended]
        dsimp only
        rw [cut]
        refine ⟨.numeral piece, rfl, ?_, ?_⟩
        · rw [Selection.value, converted]
          exact .finite longest
        · rintro _ ⟨⟩
          exact ⟨l, longest, converted⟩

theorem unsigned?_eq (cs : List Char) : unsigned? cs = some (readSign cs).2 := by
  rw [unsigned?, (StandsAt.start cs).isAt isAscii_sign]
  cases cs with
  | nil => rfl
  | cons c cs =>
      rw [List.head?_cons, Option.any_some]
      by_cases sign : isSign c = true
      · obtain ⟨front, -, cut⟩ := ((StandsAt.start (c :: cs)).next (isAscii_sign c sign)).cut
        rw [Nat.zero_add] at cut
        rw [if_pos sign, cut, readSign_cons sign]
        rfl
      · rw [if_neg sign, readSign_unsigned (isUnsigned_cons sign cs)]

/-- A sign is put to a literal by multiplying. -/
theorem signedOne_mul_toFloat (negative : Bool) (digits : Nat) (exponent : Int) :
    Binary.signedOne negative * Literal.toFloat ⟨false, digits, exponent⟩ =
      Literal.toFloat ⟨negative, digits, exponent⟩ := by
  unfold Literal.toFloat
  dsimp only
  split
  · exact Binary.signedOne_mul negative (Nat.zero_le _)
  · split
    · exact Binary.signedOne_mul negative (Nat.le_refl _)
    · exact Binary.signedOne_mul negative (Binary.nearest_le _ _)

/-- The digits behind an optional sign are selected, and the sign is put to them later. -/
theorem selectInteger?_eq (cs : List Char) :
    selectInteger? cs =
      if (readDigits (readSign cs).2).1 = [] then some .nothing
      else some (.digits (Binary.signedOne (readSign cs).1) (readDigits (readSign cs).2).1) := by
  have sign : (if isAt (· == '-') (bytes cs) 0 then -1 else 1 : Float) =
      Binary.signedOne (readSign cs).1 := by
    rw [(StandsAt.start cs).isAt (isAscii_beq (by decide)), readSign_negative]
    cases cs <;> rfl
  obtain ⟨split, all⟩ := readDigits_sound (readSign cs).2
  have size := size_ascii fun c mem => isAscii_digit c (all c mem)
  have cut := cut?_append (readDigits (readSign cs).2).1 (readDigits (readSign cs).2).2
  rw [← split] at cut
  have steps : selectInteger? cs =
      (unsigned? cs).bind fun unsigned =>
        if Text.size (readDigits unsigned).1 = 0 then some .nothing
        else (cut? unsigned (Text.size (readDigits unsigned).1)).bind fun parts =>
          some (.digits (if isAt (· == '-') (bytes cs) 0 then -1 else 1) parts.1) := rfl
  rw [steps, unsigned?_eq, Option.bind_some, cut, Option.bind_some, sign, size]
  simp only [List.length_eq_zero_iff]

theorem selectInteger?_value (cs : List Char) :
    ∃ selection, selectInteger? cs = some selection ∧ IntegerValue cs selection.value ∧
      ∀ piece ∈ selection.piece?, ∃ x, ofText? piece = some x := by
  have read : leadingInteger? cs =
      if (readDigits (readSign cs).2).1.isEmpty then none
      else some (⟨(readSign cs).1, natOfDigits (readDigits (readSign cs).2).1, 0⟩,
        (readDigits (readSign cs).2).2) := rfl
  rw [selectInteger?_eq]
  by_cases none : (readDigits (readSign cs).2).1 = []
  · rw [if_pos (List.isEmpty_iff.mpr none)] at read
    rw [if_pos none]
    exact ⟨.nothing, rfl, .nothing (reads_integral.eq_none_iff.mp read), nofun⟩
  · rw [if_neg (mt List.isEmpty_iff.mp none)] at read
    rw [if_neg none]
    have converted := ofText?_numeral (numeral_of_isDigits (isDigits_of_ne_nil none))
    refine ⟨_, rfl, ?_, ?_⟩
    · obtain ⟨front, -, split⟩ := reads_integral.sound read
      rw [Selection.value, converted, Option.elim_some, signedOne_mul_toFloat]
      exact .whole (reads_integral.isLongest_iff.mpr ⟨_, read, split⟩)
    · rintro _ ⟨⟩
      exact ⟨_, converted⟩

/-- Behind the white space in front of a text, the number that it starts with is what the longest
    numeral there stands for, or infinity if its name is there behind an optional sign, and NaN if
    there is neither. The integer that it starts with is what the longest row of digits with an
    optional sign stands for, and NaN if there is none. The scans over the bytes of the text find
    these numbers: the text is cut between characters only, and each piece is converted. -/
theorem prefixes_are_longest (s : String) :
    let text := Text.trimStart s.toList
    (∀ x, NumberValue text x ↔ x = numberPrefix s) ∧
      (∀ x, IntegerValue text x ↔ x = integerPrefix s) ∧
      (∃ selection, selectNumber? text = some selection ∧ selection.value = numberPrefix s ∧
        ∀ piece ∈ selection.piece?, ∃ l, IsLongest Numeral text piece l ∧
          ofText? piece = some l.toFloat) ∧
      ∃ selection, selectInteger? text = some selection ∧ selection.value = integerPrefix s ∧
        ∀ piece ∈ selection.piece?, ∃ x, ofText? piece = some x := by
  intro text
  obtain ⟨number, selected, value, pieces⟩ := selectNumber?_value text
  obtain ⟨integer, selected', value', pieces'⟩ := selectInteger?_value text
  exact ⟨fun _ => numberValue_iff s, fun _ => integerValue_iff s,
    ⟨number, selected, (numberValue_iff s).mp value, pieces⟩,
    ⟨integer, selected', (integerValue_iff s).mp value', pieces'⟩⟩

end Decimal

end TreeMacros
