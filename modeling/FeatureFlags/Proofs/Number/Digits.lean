import FeatureFlags.Number.Decimal
import Mathlib.Algebra.Ring.Nat

namespace FeatureFlags.Number

/-!
# Digits of naturals

The digits of a natural write it: they are read as that natural, none of them is anything
but a digit, and no zero stands before the others.
-/

/-! ## Naturals of digits -/

/-- A digit stands as far behind the zero as its value tells, which is at most nine. -/
theorem digitValue_spec
    {c : Char}
    (isDigit : c.isDigit = true) :
    digitValue c ≤ 9 ∧ c.toNat = 48 + digitValue c := by
  simp only [Char.isDigit, Bool.and_eq_true, decide_eq_true_eq, ge_iff_le,
    UInt32.le_iff_toNat_le] at isDigit
  change 48 ≤ c.toNat ∧ c.toNat ≤ 57 at isDigit
  change c.toNat - 48 ≤ 9 ∧ c.toNat = 48 + (c.toNat - 48)
  omega

theorem naturalOfDigits_eq_ofDigitChars (digits : List Char) :
    naturalOfDigits digits = Nat.ofDigitChars 10 digits 0 := by
  simp only [naturalOfDigits, Nat.ofDigitChars_eq_foldl, digitValue, Nat.mul_comm 10]

/-- The digits that come later count less, by as many places as there are of them. -/
theorem naturalOfDigits_append (digits more : List Char) :
    naturalOfDigits (digits ++ more) =
      naturalOfDigits digits * 10 ^ more.length + naturalOfDigits more := by
  simp only [naturalOfDigits_eq_ofDigitChars, Nat.ofDigitChars_append]
  rw [Nat.ofDigitChars_eq_ofDigitChars_zero, Nat.mul_comm]

theorem naturalOfDigits_cons
    (digit : Char)
    (rest : List Char) :
    naturalOfDigits (digit :: rest) =
      digitValue digit * 10 ^ rest.length + naturalOfDigits rest := by
  rw [← List.singleton_append, naturalOfDigits_append]
  simp [naturalOfDigits]

@[simp] theorem naturalOfDigits_replicate_zero (count : Nat) :
    naturalOfDigits (List.replicate count '0') = 0 := by
  rw [naturalOfDigits_eq_ofDigitChars, Nat.ofDigitChars_replicate_zero, Nat.mul_zero]

theorem isDigit_of_mem_zeros
    {count : Nat}
    {c : Char}
    (member : c ∈ List.replicate count '0') :
    c.isDigit = true :=
  List.eq_of_mem_replicate member ▸ rfl

/-! ## Reading digits -/

/-- Digits are read up to the first character that is none. -/
theorem readDigits_append
    {digits rest : List Char}
    (areDigits : ∀ c ∈ digits, c.isDigit = true)
    (ends : ∀ c ∈ rest.head?, c.isDigit = false) :
    readDigits (digits ++ rest) = (digits, rest) := by
  have atEnd : rest.takeWhile Char.isDigit = [] ∧ rest.dropWhile Char.isDigit = rest := by
    cases rest with
    | nil =>
        exact ⟨rfl, rfl⟩
    | cons c rest =>
        simp [ends c rfl]
  rw [readDigits, List.takeWhile_append_of_pos areDigits, List.dropWhile_append_of_pos areDigits,
    atEnd.1, atEnd.2, List.append_nil]

/-! ## Digits of naturals -/

@[simp] theorem naturalOfDigits_decimalDigits (n : Nat) :
    naturalOfDigits (decimalDigits n) = n := by
  rw [naturalOfDigits_eq_ofDigitChars]
  exact Nat.ofDigitChars_toDigits (by decide) (Nat.le_refl 10)

theorem isDigit_of_mem_decimalDigits
    {n : Nat}
    {c : Char}
    (member : c ∈ decimalDigits n) :
    c.isDigit = true :=
  Nat.isDigit_of_mem_toDigits (by decide) (Nat.le_refl 10) member

theorem decimalDigits_ne_nil (n : Nat) : decimalDigits n ≠ [] :=
  Nat.toDigits_ne_nil

/-- Only zero begins with a zero. -/
theorem eq_zero_of_head?_decimalDigits
    {n : Nat}
    (begins : (decimalDigits n).head? = some '0') :
    n = 0 := by
  induction n using Nat.strongRecOn with
  | ind n inductionHypothesis =>
      by_cases oneDigit : n < 10
      · rw [decimalDigits, Nat.toDigits_of_lt_base oneDigit, List.head?_cons, Option.some.injEq,
          Nat.digitChar_eq_zero] at begins
        exact begins
      · have atLeastTen : 10 ≤ n := Nat.le_of_not_lt oneDigit
        obtain ⟨first, rest, leading⟩ :=
          List.exists_cons_of_ne_nil (decimalDigits_ne_nil (n / 10))
        have begins : (decimalDigits (n / 10)).head? = some '0' := by
          rw [decimalDigits, Nat.toDigits_of_base_le (by decide) atLeastTen] at begins
          rw [decimalDigits] at leading ⊢
          rw [leading] at begins ⊢
          exact begins
        have leadingZero := inductionHypothesis (n / 10) (by omega) begins
        omega

/-- A natural has at most so many digits as the power of ten above it tells. -/
theorem length_decimalDigits_le_iff
    {n count : Nat}
    (positive : 0 < count) :
    (decimalDigits n).length ≤ count ↔ n < 10 ^ count :=
  Nat.length_toDigits_le_iff (by decide) positive

theorem lt_pow_length_decimalDigits (n : Nat) : n < 10 ^ (decimalDigits n).length :=
  (length_decimalDigits_le_iff (List.length_pos_iff.mpr (decimalDigits_ne_nil n))).mp
    (Nat.le_refl _)

/-- A positive natural has at least so many digits as the power of ten below it tells. -/
theorem pow_le_of_length_decimalDigits
    {n count : Nat}
    (positive : 0 < n)
    (length : (decimalDigits n).length = count + 1) :
    10 ^ count ≤ n := by
  rcases Nat.eq_zero_or_pos count with rfl | countPos
  · exact positive
  · have tooLong : ¬ (decimalDigits n).length ≤ count := by omega
    exact Nat.le_of_not_lt (tooLong ∘ (length_decimalDigits_le_iff countPos).mpr)

end FeatureFlags.Number
