import FeatureFlags.Text.Blank
import Mathlib.Data.List.TakeWhile

namespace FeatureFlags.Text

/-!
# Blanks at the ends of texts

What is trimmed depends on the ends of a text alone: where they are no blanks the text is
left as it is, whatever stands between them.
-/

theorem isBlank_of_isDigit
    {c : Char}
    (isDigit : c.isDigit = true) :
    isBlank c = false := by
  simp only [Char.isDigit, Bool.and_eq_true, decide_eq_true_eq, ge_iff_le, UInt32.le_iff_toNat_le]
    at isDigit
  change 48 ≤ c.toNat ∧ c.toNat ≤ 57 at isDigit
  simp [isBlank, blankRanges, CodePointRanges.has]
  omega

theorem forall_isBlank_eq_false
    {text : List Char}
    (noBlank : text.any isBlank = false) :
    ∀ c ∈ text, isBlank c = false := by
  intro c member
  rw [Bool.eq_false_iff]
  intro blank
  rw [List.any_eq_true.mpr ⟨c, member, blank⟩] at noBlank
  cases noBlank

/-- In front of a text that does not begin with a blank there is nothing to drop. -/
theorem trimStart_eq_self
    {text : List Char}
    (first : ∀ c ∈ text.head?, isBlank c = false) :
    trimStart text = text := by
  cases text with
  | nil =>
      rfl
  | cons c rest =>
      exact List.dropWhile_cons_of_neg (by simp [first c rfl])

/-- A text between two characters that are no blanks is not trimmed. -/
theorem trim_eq_self_of_ends
    {text : List Char}
    (first : ∀ c ∈ text.head?, isBlank c = false)
    (last : ∀ c ∈ text.getLast?, isBlank c = false) :
    trim text = text := by
  have backwards : trimStart text.reverse = text.reverse := by
    apply trimStart_eq_self
    rw [List.head?_reverse]
    exact last
  rw [trim, trimStart_eq_self first, trimEnd]
  exact (congrArg List.reverse backwards).trans (List.reverse_reverse text)

/-- What is trimmed of a text is blanks in front of what is left, and blanks after it. -/
theorem exists_eq_append_trim (text : List Char) :
    ∃ before after,
      text = before ++ (trim text ++ after) ∧
        (∀ c ∈ before, isBlank c = true) ∧ ∀ c ∈ after, isBlank c = true := by
  refine ⟨text.takeWhile isBlank, ((trimStart text).reverse.takeWhile isBlank).reverse, ?_, ?_, ?_⟩
  · rw [trim, trimEnd, ← List.reverse_append, List.takeWhile_append_dropWhile, List.reverse_reverse,
      trimStart, List.takeWhile_append_dropWhile]
  · intro c member
    exact List.mem_takeWhile_imp member
  · intro c member
    exact List.mem_takeWhile_imp (List.mem_reverse.mp member)

/-- All blanks around a text without blanks are trimmed. -/
theorem trim_append_append
    {before text after : List Char}
    (noBlanks : ∀ c ∈ text, isBlank c = false)
    (nonempty : text ≠ [])
    (blanksBefore : ∀ c ∈ before, isBlank c = true)
    (blanksAfter : ∀ c ∈ after, isBlank c = true) :
    trim (before ++ (text ++ after)) = text := by
  have start : trimStart (before ++ (text ++ after)) = text ++ after := by
    rw [trimStart, List.dropWhile_append_of_pos blanksBefore]
    obtain ⟨first, rest, rfl⟩ := List.exists_cons_of_ne_nil nonempty
    apply trimStart_eq_self
    intro c isFirst
    exact noBlanks c (Option.some.inj isFirst ▸ List.mem_cons_self)
  have last : trimStart (after.reverse ++ text.reverse) = text.reverse := by
    have blanks : ∀ c ∈ after.reverse, isBlank c = true := fun c member =>
      blanksAfter c (List.mem_reverse.mp member)
    rw [trimStart, List.dropWhile_append_of_pos blanks]
    apply trimStart_eq_self
    intro c isFirst
    exact noBlanks c (List.mem_reverse.mp (List.mem_of_head? isFirst))
  rw [trim, start, trimEnd, List.reverse_append]
  exact (congrArg List.reverse last).trans (List.reverse_reverse text)

/-- Where there are no blanks there is nothing to trim. -/
theorem trim_eq_self
    {text : List Char}
    (noBlanks : ∀ c ∈ text, isBlank c = false) :
    trim text = text := by
  apply trim_eq_self_of_ends
  · intro c isFirst
    exact noBlanks c (List.mem_of_head? isFirst)
  · intro c isLast
    exact noBlanks c (List.mem_of_getLast? isLast)

end FeatureFlags.Text
