import FeatureFlags.Proofs.Number.Digits
import FeatureFlags.Proofs.Text.Blanks
import FeatureFlags.Time.Reading
import Mathlib.Data.List.Lex
import Mathlib.Tactic.Ring

namespace FeatureFlags.Time

/-!
# Fields of digits

The numbers of a date are fields of digits. A padded number is a field of its width,
a field is read as the number it spells in front of any text, and fields of one width
are in the order of their numbers.
-/

open FeatureFlags.Number

/-- A field: digits, so many as its width tells. -/
structure IsField (width : Nat) (digits : List Char) : Prop where
  areDigits : ∀ c ∈ digits, c.isDigit = true
  hasWidth : digits.length = width

/-- Quotient and remainder are in the order of what they are quotient and remainder of. -/
private theorem quotients_lt_iff
    {bound quotient other rest otherRest : Nat}
    (small : rest < bound)
    (otherSmall : otherRest < bound) :
    quotient * bound + rest < other * bound + otherRest ↔
      quotient < other ∨ quotient = other ∧ rest < otherRest := by
  rcases Nat.lt_trichotomy quotient other with less | rfl | greater
  · have more := Nat.mul_le_mul_right bound less
    rw [Nat.succ_mul] at more
    omega
  · omega
  · have more := Nat.mul_le_mul_right bound greater
    rw [Nat.succ_mul] at more
    omega

private theorem quotients_eq_iff
    {bound quotient other rest otherRest : Nat}
    (small : rest < bound)
    (otherSmall : otherRest < bound) :
    quotient * bound + rest = other * bound + otherRest ↔
      quotient = other ∧ rest = otherRest := by
  have less := @quotients_lt_iff bound quotient other _ _ small otherSmall
  have greater := @quotients_lt_iff bound other quotient _ _ otherSmall small
  omega

namespace IsField

variable {width : Nat} {digits : List Char}

theorem tail
    {digit : Char}
    (field : IsField (width + 1) (digit :: digits)) :
    IsField width digits where
  areDigits c member := field.areDigits c (List.mem_cons_of_mem digit member)
  hasWidth := Nat.succ.inj field.hasWidth

/-- The first character of a field is a digit, whatever follows the field. -/
theorem head_isDigit
    (field : IsField width digits)
    (positive : 0 < width)
    (rest : List Char) :
    ∀ c ∈ (digits ++ rest).head?, c.isDigit = true := by
  intro c isFirst
  cases digits with
  | nil =>
      exact absurd field.hasWidth (Nat.ne_of_lt positive)
  | cons first more =>
      exact field.areDigits c (Option.some.inj isFirst ▸ List.mem_cons_self)

theorem trimStart_append
    (field : IsField width digits)
    (positive : 0 < width)
    (rest : List Char) :
    Text.trimStart (digits ++ rest) = digits ++ rest :=
  Text.trimStart_eq_self fun c isFirst =>
    Text.isBlank_of_isDigit (field.head_isDigit positive rest c isFirst)

/-- The last character of a field is a digit, whatever stands before the field. -/
theorem getLast_isDigit
    (field : IsField width digits)
    (positive : 0 < width)
    (before : List Char) :
    ∀ c ∈ (before ++ digits).getLast?, c.isDigit = true := by
  intro c isLast
  have nonempty : digits ≠ [] := by
    rw [← List.length_pos_iff, field.hasWidth]
    exact positive
  rw [List.getLast?_append_of_ne_nil before nonempty] at isLast
  exact field.areDigits c (List.mem_of_getLast? isLast)

/-- A field in front of a text is read as the number that it spells. -/
theorem readFixed?_append
    (field : IsField width digits)
    (rest : List Char) :
    readFixed? width (digits ++ rest) = some (naturalOfDigits digits, rest) := by
  obtain ⟨areDigits, rfl⟩ := field
  have allDigits : digits.all Char.isDigit = true := List.all_eq_true.mpr areDigits
  simp only [readFixed?, List.take_left, List.drop_left, allDigits, and_self, reduceIte]

/-- The lenient reader reads a field of the width it looks for as the strict one does. -/
theorem readNumber?_append
    (field : IsField width digits)
    (positive : 0 < width)
    (rest : List Char) :
    readNumber? width (digits ++ rest) = some (naturalOfDigits digits, rest) := by
  have noBlanks := field.trimStart_append positive rest
  obtain ⟨areDigits, rfl⟩ := field
  have taken : (readDigits (digits ++ rest)).1.take digits.length = digits := by
    rw [readDigits, List.takeWhile_append_of_pos areDigits, List.take_left]
  have nonempty : digits.isEmpty = false := by
    rw [List.isEmpty_eq_false_iff, ← List.length_pos_iff]
    exact positive
  simp only [readNumber?, noBlanks, taken, nonempty, List.drop_left, Bool.false_eq_true, reduceIte]

/-- The number of a field is below the power of ten of its width. -/
theorem naturalOfDigits_lt
    (field : IsField width digits) :
    naturalOfDigits digits < 10 ^ width := by
  obtain ⟨areDigits, rfl⟩ := field
  induction digits with
  | nil =>
      exact Nat.one_pos
  | cons digit rest inductionHypothesis =>
      have small := inductionHypothesis fun c member =>
        areDigits c (List.mem_cons_of_mem digit member)
      have digitSmall := (digitValue_spec (areDigits digit List.mem_cons_self)).1
      calc
        naturalOfDigits (digit :: rest) =
            digitValue digit * 10 ^ rest.length + naturalOfDigits rest :=
          naturalOfDigits_cons digit rest
        _ < 9 * 10 ^ rest.length + 10 ^ rest.length := by
          have most := Nat.mul_le_mul_right (10 ^ rest.length) digitSmall
          omega
        _ = 10 ^ (digit :: rest).length := by
          rw [List.length_cons]
          ring

/-- Two fields of one width are equal when they spell the same number, and otherwise the
texts that begin with them are in the order of the numbers. -/
theorem append_lt_append_iff
    {other : List Char}
    (field : IsField width digits)
    (otherField : IsField width other)
    (rest otherRest : List Char) :
    digits ++ rest < other ++ otherRest ↔
      naturalOfDigits digits < naturalOfDigits other ∨
        naturalOfDigits digits = naturalOfDigits other ∧ rest < otherRest := by
  induction width generalizing digits other with
  | zero =>
      obtain rfl := List.eq_nil_of_length_eq_zero field.hasWidth
      obtain rfl := List.eq_nil_of_length_eq_zero otherField.hasWidth
      simp
  | succ width inductionHypothesis =>
      obtain ⟨digit, digits, rfl⟩ := List.exists_cons_of_length_eq_add_one field.hasWidth
      obtain ⟨otherDigit, other, rfl⟩ := List.exists_cons_of_length_eq_add_one otherField.hasWidth
      have tails := inductionHypothesis field.tail otherField.tail
      have small := field.tail.naturalOfDigits_lt
      have otherSmall := otherField.tail.naturalOfDigits_lt
      have isDigit := digitValue_spec (field.areDigits digit List.mem_cons_self)
      have otherIsDigit := digitValue_spec (otherField.areDigits otherDigit List.mem_cons_self)
      have less : digit < otherDigit ↔ digitValue digit < digitValue otherDigit := by
        change digit.val < otherDigit.val ↔ _
        rw [UInt32.lt_iff_toNat_lt]
        change digit.toNat < otherDigit.toNat ↔ _
        omega
      have same : digit = otherDigit ↔ digitValue digit = digitValue otherDigit := by
        rw [← Char.toNat_inj]
        omega
      rw [List.cons_append, List.cons_append, List.cons_lt_cons_iff, tails, less, same,
        naturalOfDigits_cons, naturalOfDigits_cons, field.tail.hasWidth, otherField.tail.hasWidth]
      rw [quotients_lt_iff small otherSmall, quotients_eq_iff small otherSmall]
      simp only [and_or_left, or_assoc, and_assoc]

end IsField

/-- A padded number is a field of its width. -/
theorem isField_padded
    {width n : Nat}
    (positive : 0 < width)
    (small : n < 10 ^ width) :
    IsField width (padded width n) where
  areDigits c member := by
    rcases List.mem_append.mp member with zero | digit
    · exact isDigit_of_mem_zeros zero
    · exact isDigit_of_mem_decimalDigits digit
  hasWidth := by
    have fits := (length_decimalDigits_le_iff positive).mpr small
    rw [padded, List.length_append, List.length_replicate]
    omega

@[simp] theorem naturalOfDigits_padded (width n : Nat) :
    naturalOfDigits (padded width n) = n := by
  rw [padded, naturalOfDigits_append, naturalOfDigits_replicate_zero, naturalOfDigits_decimalDigits,
    Nat.zero_mul, Nat.zero_add]

end FeatureFlags.Time
