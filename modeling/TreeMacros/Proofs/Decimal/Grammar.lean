import Mathlib.Data.List.TakeWhile
import Mathlib.Tactic.Common
import TreeMacros.Decimal.Reader

/-! # The grammar of numerals

Numerals are signs, digits with a point among them, and exponents, put together by rules. What is
read at the start of a text is the longest numeral there, with the value that the rules give it.
-/

namespace TreeMacros.Decimal

/-! ## Rules -/

/-- One ASCII digit or more. -/
def IsDigits (cs : List Char) : Prop :=
  cs ≠ [] ∧ ∀ c ∈ cs, isDigit c = true

/-- An optional sign, and whether it is a minus. -/
inductive Signs : List Char → Bool → Prop where
  | none : Signs [] false
  | plus : Signs ['+'] false
  | minus : Signs ['-'] true

/-- Digits with an optional point, and the digits on both sides of it. -/
inductive Positional : List Char → List Char → List Char → Prop where
  | whole {whole : List Char} (digits : IsDigits whole) : Positional whole whole []
  | pointed {whole : List Char} (digits : IsDigits whole) : Positional (whole ++ ['.']) whole []
  | both {whole fraction : List Char} (digits : IsDigits whole) (places : IsDigits fraction) :
    Positional (whole ++ '.' :: fraction) whole fraction
  | fraction {fraction : List Char} (places : IsDigits fraction) :
    Positional ('.' :: fraction) [] fraction

/-- An optional exponent and its value. -/
inductive Exponent : List Char → Int → Prop where
  | none : Exponent [] 0
  | some {mark : Char} {signs digits : List Char} {negative : Bool}
    (marks : mark = 'e' ∨ mark = 'E') (signed : Signs signs negative) (all : IsDigits digits) :
    Exponent (mark :: (signs ++ digits))
      (if negative then -natOfDigits digits else natOfDigits digits)

/-- A numeral and the literal that it stands for. -/
inductive Numeral : List Char → Literal → Prop where
  | mk {signs digits exponent whole fraction : List Char} {negative : Bool} {places : Int}
    (signed : Signs signs negative) (positional : Positional digits whole fraction)
    (scaled : Exponent exponent places) :
    Numeral (signs ++ (digits ++ exponent))
      ⟨negative, natOfDigits (whole ++ fraction), places - fraction.length⟩

/-- Digits with an optional sign, and the literal that they stand for. -/
inductive Integral : List Char → Literal → Prop where
  | mk {signs digits : List Char} {negative : Bool} (signed : Signs signs negative)
    (all : IsDigits digits) : Integral (signs ++ digits) ⟨negative, natOfDigits digits, 0⟩

/-! ## The longest one -/

/-- What texts of a form stand for. -/
abbrev Form := List Char → Literal → Prop

/-- The longest text of a form at the start of another one. -/
structure IsLongest (form : Form) (cs front : List Char) (l : Literal) : Prop where
  holds : form front l
  starts : front <+: cs
  longest : ∀ other l', form other l' → other <+: cs → other.length ≤ front.length

/-- A reader finds texts of a form, and reads at least what is there of them. If it reads no more,
    then it reads the same literal. -/
structure Reads (form : Form) (read : List Char → Option (Literal × List Char)) : Prop where
  sound : ∀ {cs l rest}, read cs = some (l, rest) → ∃ front, form front l ∧ cs = front ++ rest
  reaches : ∀ {front l}, form front l → ∀ behind, ∃ more l' rest, behind = more ++ rest ∧
    read (front ++ behind) = some (l', rest) ∧ (more = [] → l' = l)

namespace Reads

variable {form : Form} {read : List Char → Option (Literal × List Char)} {cs front : List Char}
  {l : Literal}

/-- What a reader reads is the longest text of the form. -/
theorem isLongest_iff (reads : Reads form read) :
    IsLongest form cs front l ↔ ∃ rest, read cs = some (l, rest) ∧ cs = front ++ rest := by
  constructor
  · rintro ⟨holds, ⟨behind, rfl⟩, longest⟩
    obtain ⟨more, l', rest, rfl, returned, same⟩ := reads.reaches holds behind
    obtain ⟨front', holds', equal⟩ := reads.sound returned
    have lengths := congrArg List.length equal
    have bound := longest front' l' holds' ⟨rest, equal.symm⟩
    simp only [List.length_append] at lengths
    have none : more = [] := List.eq_nil_of_length_eq_zero (by omega)
    obtain rfl := same none
    exact ⟨rest, returned, by rw [none, List.nil_append]⟩
  · rintro ⟨rest, returned, rfl⟩
    obtain ⟨front', holds, equal⟩ := reads.sound returned
    obtain rfl := List.append_cancel_right equal
    refine ⟨holds, ⟨rest, rfl⟩, ?_⟩
    rintro other l' holds' ⟨behind, split⟩
    obtain ⟨more, l'', rest', rfl, returned', -⟩ := reads.reaches holds' behind
    rw [split, returned] at returned'
    obtain rfl : rest = rest' := congrArg Prod.snd (Option.some.inj returned')
    have lengths := congrArg List.length split
    simp only [List.length_append] at lengths
    omega

/-- Nothing is read only where there is no text of the form. -/
theorem eq_none_iff (reads : Reads form read) :
    read cs = none ↔ ∀ front l, form front l → ¬front <+: cs := by
  constructor
  · rintro nothing front l holds ⟨behind, rfl⟩
    obtain ⟨more, l', rest, -, returned, -⟩ := reads.reaches holds behind
    rw [nothing] at returned
    cases returned
  · intro nothing
    cases returned : read cs with
    | none => rfl
    | some found =>
        obtain ⟨front, holds, rfl⟩ := reads.sound returned
        exact (nothing front found.1 holds ⟨found.2, rfl⟩).elim

/-- A text of the form is read as a whole. -/
theorem whole (reads : Reads form read) (holds : form front l) : read front = some (l, []) := by
  obtain ⟨more, l', rest, none, returned, same⟩ := reads.reaches holds []
  obtain ⟨rfl, rfl⟩ := List.append_eq_nil_iff.mp none.symm
  rw [List.append_nil] at returned
  rw [returned, same rfl]

end Reads

/-! ## Signs and digits -/

section Parts

variable {cs rest behind signs digits : List Char} {negative : Bool}

theorem readSign_sound (cs : List Char) :
    ∃ signs, Signs signs (readSign cs).1 ∧ cs = signs ++ (readSign cs).2 := by
  unfold readSign
  split
  · exact ⟨['-'], .minus, rfl⟩
  · exact ⟨['+'], .plus, rfl⟩
  · exact ⟨[], .none, rfl⟩

/-- The text does not start with a sign. -/
def IsUnsigned (cs : List Char) : Prop :=
  ∀ c ∈ cs.head?, c ≠ '+' ∧ c ≠ '-'

theorem readSign_unsigned (bare : IsUnsigned cs) : readSign cs = (false, cs) := by
  unfold readSign
  split
  · exact ((bare '-' rfl).2 rfl).elim
  · exact ((bare '+' rfl).1 rfl).elim
  · rfl

theorem readSign_signs (signed : Signs signs negative) (bare : IsUnsigned cs) :
    readSign (signs ++ cs) = (negative, cs) := by
  cases signed with
  | none => exact readSign_unsigned bare
  | plus | minus => rfl

theorem readDigits_sound (cs : List Char) :
    cs = (readDigits cs).1 ++ (readDigits cs).2 ∧ ∀ c ∈ (readDigits cs).1, isDigit c = true :=
  ⟨List.takeWhile_append_dropWhile.symm, fun _ => List.mem_takeWhile_imp⟩

theorem readDigits_append (all : ∀ c ∈ digits, isDigit c = true) (behind : List Char) :
    readDigits (digits ++ behind) = (digits ++ (readDigits behind).1, (readDigits behind).2) := by
  rw [readDigits, readDigits, List.takeWhile_append_of_pos all, List.dropWhile_append_of_pos all]

theorem readDigits_cons {c : Char} (other : isDigit c = false) (rest : List Char) :
    readDigits (c :: rest) = ([], c :: rest) := by
  simp [readDigits, other]

theorem isDigits_of_ne_nil (some : (readDigits cs).1 ≠ []) : IsDigits (readDigits cs).1 :=
  ⟨some, (readDigits_sound cs).2⟩

theorem IsDigits.isUnsigned (all : IsDigits digits) (behind : List Char) :
    IsUnsigned (digits ++ behind) := by
  obtain ⟨some, digit⟩ := all
  obtain ⟨first, others, rfl⟩ := List.exists_cons_of_ne_nil some
  rintro c ⟨⟩
  have first := digit first List.mem_cons_self
  constructor <;> rintro rfl <;> cases first

end Parts

/-! ## Integers -/

/-- The integer at the start of a text, and the rest. -/
def leadingInteger? (cs : List Char) : Option (Literal × List Char) :=
  let (negative, cs) := readSign cs
  let (digits, rest) := readDigits cs
  if digits.isEmpty then none else some (⟨negative, natOfDigits digits, 0⟩, rest)

theorem reads_integral : Reads Integral leadingInteger? where
  sound := by
    intro cs l rest returned
    obtain ⟨signs, signed, split⟩ := readSign_sound cs
    simp only [leadingInteger?, List.isEmpty_iff] at returned
    split at returned
    · cases returned
    · next some =>
        cases returned
        refine ⟨signs ++ (readDigits (readSign cs).2).1, .mk signed (isDigits_of_ne_nil some), ?_⟩
        rw [List.append_assoc, ← (readDigits_sound _).1]
        exact split
  reaches := by
    rintro _ _ ⟨signed, all⟩ behind
    rename_i signs digits negative
    refine ⟨(readDigits behind).1, ⟨negative, natOfDigits (digits ++ (readDigits behind).1), 0⟩,
      (readDigits behind).2, (readDigits_sound behind).1, ?_, ?_⟩
    · rw [List.append_assoc, leadingInteger?, readSign_signs signed (all.isUnsigned behind)]
      simp only [readDigits_append all.2]
      exact if_neg (by simp [all.1])
    · intro none
      rw [none, List.append_nil]

/-! ## Numerals -/

section Positional

variable {cs behind digits whole fraction : List Char}

/-- The digits around a point, and the rest. -/
def readPositional (cs : List Char) : List Char × List Char × List Char :=
  ((readDigits cs).1, readFraction (readDigits cs).2)

theorem readFraction_other (other : ∀ c ∈ cs.head?, c ≠ '.') : readFraction cs = ([], cs) := by
  unfold readFraction
  split
  · exact (other '.' rfl rfl).elim
  · rfl

/-- What is read as a fraction are digits and a point, if anything is read. -/
theorem readFraction_sound (cs : List Char) :
    ∃ more, cs = more ++ (readFraction cs).2 ∧ (∀ c ∈ more, isDigit c = true ∨ c = '.') ∧
      (more = [] → (readFraction cs).1 = []) := by
  unfold readFraction
  split
  · next rest =>
      refine ⟨'.' :: (readDigits rest).1, congrArg _ (readDigits_sound rest).1, ?_, nofun⟩
      simpa using fun c mem => Or.inl ((readDigits_sound rest).2 c mem)
  · exact ⟨[], rfl, nofun, fun _ => rfl⟩

theorem readPositional_sound (cs : List Char)
    (some : (readPositional cs).1 ≠ [] ∨ (readPositional cs).2.1 ≠ []) :
    ∃ digits, Positional digits (readPositional cs).1 (readPositional cs).2.1 ∧
      cs = digits ++ (readPositional cs).2.2 := by
  obtain ⟨split, all⟩ := readDigits_sound cs
  unfold readPositional at *
  generalize (readDigits cs).1 = whole at *
  generalize (readDigits cs).2 = rest at *
  by_cases point : rest.head? = '.'
  · obtain ⟨after, rfl⟩ := List.head?_eq_some_iff.mp point
    obtain ⟨split', all'⟩ := readDigits_sound after
    have read : readFraction ('.' :: after) = readDigits after := rfl
    rw [read] at some ⊢
    generalize (readDigits after).1 = fraction at *
    generalize (readDigits after).2 = behind at *
    subst split split'
    by_cases noFraction : fraction = []
    · subst noFraction
      have digits := some.resolve_right (not_not.mpr rfl)
      exact ⟨whole ++ ['.'], .pointed ⟨digits, all⟩, by simp⟩
    · by_cases noWhole : whole = []
      · subst noWhole
        exact ⟨'.' :: fraction, .fraction ⟨noFraction, all'⟩, by simp⟩
      · exact ⟨whole ++ '.' :: fraction, .both ⟨noWhole, all⟩ ⟨noFraction, all'⟩, by simp⟩
  · have other : readFraction rest = ([], rest) :=
      readFraction_other fun c first same => point (by rw [Option.mem_def.mp first, same])
    rw [other] at some ⊢
    exact ⟨whole, .whole ⟨some.resolve_right (not_not.mpr rfl), all⟩, split⟩

theorem readPositional_point (all : ∀ c ∈ whole, isDigit c = true) (rest : List Char) :
    readPositional (whole ++ '.' :: rest) = (whole, readDigits rest) := by
  rw [readPositional, readDigits_append all, readDigits_cons rfl, List.append_nil]
  rfl

theorem Positional.isUnsigned (positional : Positional digits whole fraction)
    (behind : List Char) : IsUnsigned (digits ++ behind) := by
  cases positional with
  | whole all => exact all.isUnsigned behind
  | pointed all | both all =>
      rw [List.append_assoc]
      exact all.isUnsigned _
  | fraction => rintro c ⟨⟩; decide

/-- What was read of digits around a point and of a text behind them: it is more than the digits,
    by a piece of the text with digits and a point in it, or it is exactly these digits. -/
def ReadsPast (whole fraction behind : List Char) (read : List Char × List Char × List Char) :
    Prop :=
  ∃ more, behind = more ++ read.2.2 ∧ (read.1 ≠ [] ∨ read.2.1 ≠ []) ∧
    (∀ c ∈ more, isDigit c = true ∨ c = '.') ∧
    (more = [] → read.1 = whole ∧ read.2.1 = fraction)

theorem readsPast_point (all : ∀ c ∈ whole, isDigit c = true)
    (places : ∀ c ∈ fraction, isDigit c = true) (some : whole ≠ [] ∨ fraction ≠ [])
    (behind : List Char) :
    ReadsPast whole fraction behind (readPositional (whole ++ '.' :: (fraction ++ behind))) := by
  obtain ⟨split, digits⟩ := readDigits_sound behind
  rw [readPositional_point all, readDigits_append places]
  refine ⟨(readDigits behind).1, split, some.imp_right fun some => List.append_ne_nil_of_left_ne_nil some _,
    fun c mem => .inl (digits c mem), fun none => ⟨rfl, ?_⟩⟩
  rw [none, List.append_nil]

theorem Positional.readsPast (positional : Positional digits whole fraction)
    (behind : List Char) :
    ReadsPast whole fraction behind (readPositional (digits ++ behind)) := by
  cases positional with
  | whole written =>
      obtain ⟨split, all⟩ := readDigits_sound behind
      obtain ⟨more, split', all', same⟩ := readFraction_sound (readDigits behind).2
      rw [readPositional, readDigits_append written.2]
      refine ⟨(readDigits behind).1 ++ more, ?_,
        .inl (List.append_ne_nil_of_left_ne_nil written.1 _), ?_, ?_⟩
      · rw [List.append_assoc, ← split']
        exact split
      · rw [List.forall_mem_append]
        exact ⟨fun c mem => .inl (all c mem), all'⟩
      · intro nothing
        obtain ⟨none, none'⟩ := List.append_eq_nil_iff.mp nothing
        exact ⟨by rw [none, List.append_nil], same none'⟩
  | pointed all =>
      rw [List.append_assoc]
      exact readsPast_point all.2 (List.forall_mem_nil _) (.inl all.1) behind
  | both all places =>
      rw [List.append_assoc]
      exact readsPast_point all.2 places.2 (.inl all.1) behind
  | fraction places =>
      exact readsPast_point (List.forall_mem_nil _) places.2 (.inr places.1) behind

/-- A mark is no digit and no point, so that exactly the digits in front of it are read. -/
theorem ReadsPast.exact {mark : Char} {read : List Char × List Char × List Char}
    (past : ReadsPast whole fraction (mark :: behind) read) (marks : mark = 'e' ∨ mark = 'E') :
    read = (whole, fraction, mark :: behind) := by
  obtain ⟨more, split, -, passed, same⟩ := past
  cases more with
  | nil =>
      obtain ⟨wholes, fractions⟩ := same rfl
      exact Prod.ext wholes (Prod.ext fractions split.symm)
  | cons c more =>
      obtain rfl : mark = c := (List.cons.inj split).1
      have first := passed mark List.mem_cons_self
      obtain rfl | rfl := marks <;> exact absurd first (by decide)

end Positional

section Exponent

variable {cs behind exponent : List Char} {places : Int}

theorem Exponent.mark {mark : Char} (scaled : Exponent (mark :: exponent) places) :
    mark = 'e' ∨ mark = 'E' := by
  cases scaled
  assumption

theorem Exponent.eq_zero (scaled : Exponent [] places) : places = 0 := by
  cases scaled
  rfl

theorem readExponent_sound (cs : List Char) :
    ∃ exponent, Exponent exponent (readExponent cs).1 ∧ cs = exponent ++ (readExponent cs).2 := by
  unfold readExponent
  split
  · next mark after =>
      split
      · next marks =>
          have isMark : mark = 'e' ∨ mark = 'E' := by simpa using marks
          obtain ⟨signs, signed, split⟩ := readSign_sound after
          obtain ⟨split', -⟩ := readDigits_sound (readSign after).2
          dsimp only
          split
          · exact ⟨[], .none, rfl⟩
          · next some =>
              have digits := isDigits_of_ne_nil (mt List.isEmpty_iff.mpr some)
              refine ⟨_, .some isMark signed digits, ?_⟩
              rw [List.cons_append, List.append_assoc, ← split', ← split]
      · exact ⟨[], .none, rfl⟩
  · exact ⟨[], .none, rfl⟩

theorem readExponent_reaches (scaled : Exponent exponent places) (behind : List Char) :
    ∃ more places' rest, behind = more ++ rest ∧
      readExponent (exponent ++ behind) = (places', rest) ∧ (more = [] → places' = places) := by
  cases scaled with
  | none =>
      obtain ⟨more, read, split⟩ := readExponent_sound behind
      refine ⟨more, _, _, split, rfl, ?_⟩
      rintro rfl
      exact read.eq_zero
  | @some mark signs digits negative marks signed all =>
      have isMark : (mark == 'e' || mark == 'E') = true := by simpa using marks
      have some : (digits ++ (readDigits behind).1).isEmpty = false := by simp [all.1]
      let size : Int := natOfDigits (digits ++ (readDigits behind).1)
      refine ⟨(readDigits behind).1, if negative then -size else size, (readDigits behind).2,
        (readDigits_sound behind).1, ?_, ?_⟩
      · rw [List.cons_append, List.append_assoc, readExponent, if_pos isMark,
          readSign_signs signed (all.isUnsigned behind)]
        dsimp only
        rw [readDigits_append all.2]
        dsimp only
        rw [if_neg (by rw [some]; exact Bool.false_ne_true)]
      · intro none
        simp only [size, none, List.append_nil]

end Exponent

/-- The longest literal is read part by part. -/
theorem leading?_eq (cs : List Char) :
    leading? cs =
      let (whole, fraction, rest) := readPositional (readSign cs).2
      if whole.isEmpty && fraction.isEmpty then none
      else
        some (⟨(readSign cs).1, natOfDigits (whole ++ fraction),
          (readExponent rest).1 - fraction.length⟩, (readExponent rest).2) :=
  rfl

theorem leading?_readsPast {signs digits whole fraction : List Char} {negative : Bool}
    (signed : Signs signs negative) (positional : Positional digits whole fraction)
    (behind : List Char) :
    ∃ whole' fraction' rest, ReadsPast whole fraction behind (whole', fraction', rest) ∧
      leading? (signs ++ (digits ++ behind)) =
        some (⟨negative, natOfDigits (whole' ++ fraction'),
          (readExponent rest).1 - fraction'.length⟩, (readExponent rest).2) := by
  have past := positional.readsPast behind
  rw [leading?_eq, readSign_signs signed (positional.isUnsigned behind)]
  generalize readPositional (digits ++ behind) = read at *
  obtain ⟨whole', fraction', rest⟩ := read
  refine ⟨whole', fraction', rest, past, if_neg ?_⟩
  obtain ⟨-, -, some, -⟩ := past
  rw [Bool.and_eq_true, List.isEmpty_iff, List.isEmpty_iff]
  exact not_and_or.mpr some

theorem reads_numeral : Reads Numeral leading? where
  sound := by
    intro cs l rest returned
    obtain ⟨signs, signed, split⟩ := readSign_sound cs
    have positional := readPositional_sound (readSign cs).2
    rw [leading?_eq] at returned
    generalize readPositional (readSign cs).2 = parts at positional returned
    obtain ⟨whole, fraction, after⟩ := parts
    dsimp only at positional returned
    split at returned
    · cases returned
    · next some =>
        cases returned
        rw [Bool.and_eq_true, List.isEmpty_iff, List.isEmpty_iff, not_and_or] at some
        obtain ⟨digits, positional, split'⟩ := positional some
        obtain ⟨exponent, scaled, split''⟩ := readExponent_sound after
        refine ⟨signs ++ (digits ++ exponent), .mk signed positional scaled, ?_⟩
        rw [List.append_assoc, List.append_assoc, ← split'', ← split', ← split]
  reaches := by
    rintro _ _ ⟨signed, positional, scaled⟩ behind
    rename_i signs digits exponent whole fraction negative places
    obtain ⟨whole', fraction', rest, past, returned⟩ :=
      leading?_readsPast signed positional (exponent ++ behind)
    rw [List.append_assoc, List.append_assoc]
    cases exponent with
    | nil =>
        obtain ⟨more, split, -, -, same⟩ := past
        obtain ⟨added, scaled', split'⟩ := readExponent_sound rest
        refine ⟨more ++ added, _, _, ?_, returned, ?_⟩
        · rw [List.append_assoc, ← split']
          exact split
        · intro nothing
          obtain ⟨none, rfl⟩ := List.append_eq_nil_iff.mp nothing
          obtain ⟨rfl, rfl⟩ := same none
          rw [scaled'.eq_zero, scaled.eq_zero]
    | cons mark others =>
        rw [List.cons_append] at past
        cases past.exact scaled.mark
        obtain ⟨more, places', rest', split, read, same⟩ := readExponent_reaches scaled behind
        rw [List.cons_append] at read
        rw [read] at returned
        exact ⟨more, _, rest', split, returned, fun none => by rw [same none]⟩

/-- A point belongs to the digits in front of it, but a mark without digits is given back. -/
example : leading? "5.e+".toList = some (⟨false, 5, 0⟩, ['e', '+']) := by decide

end TreeMacros.Decimal
