import Mathlib.Data.List.TakeWhile
import TreeMacros.Json.Number
import TreeMacros.Json.Quoted

/-! # Leaves of a JSON text

A quoted text stands for the text that was quoted, and the digits of a word for the word, whatever
the text and the word.
-/

namespace TreeMacros.Json

namespace Quoted

/-! ## Quoted texts -/

theorem unit?_hexByte : ∀ n < 0x20,
    unit? '0' '0' (hexDigits.getD (n / 16) '0') (hexDigits.getD (n % 16) '0') = some n := by
  decide

/-- The three ways a character stands between quotes. -/
theorem escape_cases (c : Char) :
    (∃ letter, letter ≠ 'u' ∧ shortEscape? letter = some c ∧ escape c = ['\\', letter]) ∨
    (c.toNat < 0x20 ∧ escape c = '\\' :: 'u' :: '0' :: '0' :: hexByte c.toNat) ∨
    (c ≠ '\\' ∧ c ≠ '"' ∧ 0x20 ≤ c.toNat ∧ escape c = [c]) := by
  by_cases quote : c = '"'
  · subst quote; exact .inl ⟨'"', by decide, by decide, by decide⟩
  by_cases slash : c = '\\'
  · subst slash; exact .inl ⟨'\\', by decide, by decide, by decide⟩
  by_cases newline : c = '\n'
  · subst newline; exact .inl ⟨'n', by decide, by decide, by decide⟩
  by_cases carriage : c = '\r'
  · subst carriage; exact .inl ⟨'r', by decide, by decide, by decide⟩
  by_cases tab : c = '\t'
  · subst tab; exact .inl ⟨'t', by decide, by decide, by decide⟩
  by_cases back : c = '\x08'
  · subst back; exact .inl ⟨'b', by decide, by decide, by decide⟩
  by_cases feed : c = '\x0c'
  · subst feed; exact .inl ⟨'f', by decide, by decide, by decide⟩
  by_cases control : c.toNat < 0x20
  · exact .inr (.inl ⟨control, by
      simp [escape, quote, slash, newline, carriage, tab, back, feed, control]⟩)
  · exact .inr (.inr ⟨slash, quote, by omega, by
      simp [escape, quote, slash, newline, carriage, tab, back, feed, control]⟩)

/-- The escape of a character is read as this character. -/
theorem pieces_escape (c : Char) (rest : List Char) :
    pieces (escape c ++ rest) = (pieces rest).map (.char c :: ·) := by
  obtain ⟨letter, other, short, written⟩ | ⟨control, written⟩ | ⟨slash, -, printable, written⟩ :=
    escape_cases c
  · simp only [written, List.cons_append, List.nil_append]
    rw [pieces]
    · cases pieces rest <;> simp [short]
    · simp [other]
  · have piece : Piece.ofUnit c.toNat = .char c := by
      simp [Piece.ofUnit, show ¬ 0xD800 ≤ c.toNat by omega, Char.ofNat_toNat]
    simp only [written, hexByte, List.cons_append, List.nil_append, pieces,
      unit?_hexByte c.toNat control]
    cases pieces rest <;> simp [piece]
  · simp only [written, List.cons_append, List.nil_append]
    rw [pieces]
    · simp [slash, show ¬ c.toNat < 0x20 by omega]
    · simp [slash]
    · simp [slash]

theorem pieces_flatMap_escape (cs : List Char) :
    pieces (cs.flatMap escape) = some (cs.map .char) := by
  induction cs with
  | nil => rfl
  | cons c rest ih =>
      simp only [List.flatMap_cons, pieces_escape, ih, Option.map_some, List.map_cons]

theorem join_map_char (cs : List Char) : join (cs.map .char) = some cs := by
  induction cs with
  | nil => rfl
  | cons c rest ih => simp only [List.map_cons, join, ih, Option.map_some]

end Quoted

namespace Number

open Decimal

/-! ## Words -/

theorem isDigit_toDigits {n : Nat} {c : Char} (member : c ∈ Nat.toDigits 10 n) :
    Decimal.isDigit c = true := by
  have digit := Nat.isDigit_of_mem_toDigits (by decide) (by decide) member
  simpa [Decimal.isDigit, Char.isDigit, Char.le_def] using digit

theorem natOfDigits_toDigits (n : Nat) : natOfDigits (Nat.toDigits 10 n) = n :=
  Nat.ofDigitChars_ten_toDigits

/-- Only zero is written with a zero in front. -/
theorem eq_zero_of_zeroLed {n : Nat} (zeroLed : (Nat.toDigits 10 n).head? = some '0') : n = 0 := by
  induction n using Nat.strongRecOn with
  | ind n ih =>
      by_cases small : n < 10
      · simpa [Nat.toDigits_of_lt_base small] using zeroLed
      · have shorter : (Nat.toDigits 10 (n / 10)).head? = some '0' := by
          rw [Nat.toDigits_of_base_le (by decide) (by omega), List.head?_append] at zeroLed
          cases digits : Nat.toDigits 10 (n / 10) with
          | nil => exact absurd digits Nat.toDigits_ne_nil
          | cons first rest => simpa [digits] using zeroLed
        have := ih (n / 10) (by omega) shorter
        omega

theorem readDigits_toDigits (n : Nat) :
    readDigits (Nat.toDigits 10 n) = (Nat.toDigits 10 n, []) := by
  have digits : ∀ c ∈ Nat.toDigits 10 n, Decimal.isDigit c = true := fun _ => isDigit_toDigits
  rw [readDigits, List.takeWhile_eq_self_iff.mpr digits, List.dropWhile_eq_nil_iff.mpr digits]

theorem zeroLed_toDigits (n : Nat) :
    ((Nat.toDigits 10 n).head? == some '0' && (Nat.toDigits 10 n).length != 1) = false := by
  by_cases zero : (Nat.toDigits 10 n).head? = some '0'
  · rw [eq_zero_of_zeroLed zero]
    rfl
  · simp [zero]

theorem parts?_negative (n : Nat) :
    parts? ('-' :: Nat.toDigits 10 n) = some ⟨true, Nat.toDigits 10 n, none, none⟩ := by
  simp [parts?, readDigits_toDigits, zeroLed_toDigits, Nat.toDigits_ne_nil]

theorem parts?_unsigned (n : Nat) :
    parts? (Nat.toDigits 10 n) = some ⟨false, Nat.toDigits 10 n, none, none⟩ := by
  unfold parts?
  split
  next first rest signed =>
    split at signed
    · next digits =>
        have digit : Decimal.isDigit '-' = true := isDigit_toDigits (by rw [digits]; simp)
        exact absurd digit (by decide)
    · cases signed
      simp [readDigits_toDigits, zeroLed_toDigits, Nat.toDigits_ne_nil]

/-- The number that a word is written as, if it is one of 64 bits. -/
theorem value_word (word : Int) (low : -Nat.pow 2 63 ≤ word) (high : word < Nat.pow 2 64) :
    (parts? word.repr.toList).map value = some (.int word) := by
  cases word with
  | ofNat n =>
      have fits : n < Nat.pow 2 64 := by
        simp only [Int.ofNat_eq_natCast, Nat.pow_eq] at high ⊢
        omega
      simp [Int.repr, parts?_unsigned, value, word?, natOfDigits_toDigits, fits]
  | negSucc n =>
      have fits : n + 1 ≤ Nat.pow 2 63 := by
        simp only [Int.negSucc_eq, Nat.pow_eq] at low ⊢
        omega
      simp [Int.repr, parts?_negative, value, word?, natOfDigits_toDigits, fits, Int.negSucc_eq]

end Number

end TreeMacros.Json
