namespace FeatureFlags.Text

/-!
# Occurrences

Literal search for one text inside another, and the removal of a known front.
-/

/-- Whether `needle` occurs in the text as a contiguous block. -/
def occursIn
    (needle : List Char) :
    List Char → Bool
  | [] => needle.isEmpty
  | c :: rest => needle.isPrefixOf (c :: rest) || occursIn needle rest

/-- Occurrence is a split of the text around the needle. -/
theorem occursIn_eq_true_iff
    (needle text : List Char) :
    occursIn needle text = true ↔
      ∃ before after, text = before ++ needle ++ after := by
  induction text with
  | nil =>
      constructor
      · intro empty
        exact ⟨[], [], by simpa [occursIn] using empty⟩
      · rintro ⟨before, after, split⟩
        simp_all [occursIn]
  | cons c rest inductionHypothesis =>
      constructor
      · intro found
        rcases Bool.or_eq_true _ _ ▸ found with atFront | later
        · obtain ⟨after, split⟩ := List.isPrefixOf_iff_prefix.mp atFront
          exact ⟨[], after, by simpa using split.symm⟩
        · obtain ⟨before, after, split⟩ := inductionHypothesis.mp later
          exact ⟨c :: before, after, by simp [split]⟩
      · rintro ⟨before, after, split⟩
        cases before with
        | nil =>
            have atFront : needle.isPrefixOf (c :: rest) = true :=
              List.isPrefixOf_iff_prefix.mpr ⟨after, by simpa using split.symm⟩
            simp [occursIn, atFront]
        | cons head before =>
            have later : occursIn needle rest = true :=
              inductionHypothesis.mpr ⟨before, after, by
                simpa using (List.cons.inj split).2⟩
            simp [occursIn, later]

/-- The text after a given front, if it begins with that front. -/
def stripFront? :
    List Char → List Char → Option (List Char)
  | [], text => some text
  | _ :: _, [] => none
  | expected :: front, c :: rest =>
      if expected = c then stripFront? front rest else none

end FeatureFlags.Text
