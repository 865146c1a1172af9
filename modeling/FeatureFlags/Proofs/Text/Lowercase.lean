import FeatureFlags.Text.Lowercase

namespace FeatureFlags.Text

/-!
# Lower case of a part of a text

Every character but the capital sigma has one lower case wherever it stands. So a part of a
text has the same lower case in the text as alone exactly if each of its sigmas ends a word
in the text where it does in the part: always if there is none, or if no letter adjoins.
-/

/-! ## Parts of a text -/

/-- The lower case of a part of a text, `before` being reversed. -/
def lowerWithin
    (before after : List Char) :
    List Char → List Char
  | [] => []
  | c :: rest => lowerBetween before c (rest ++ after) ++ lowerWithin (c :: before) after rest

theorem lowerAfter_eq_lowerWithin (before text : List Char) :
    lowerAfter before text = lowerWithin before [] text := by
  induction text generalizing before with
  | nil =>
      rfl
  | cons c rest inductionHypothesis =>
      rw [lowerAfter, lowerWithin, inductionHypothesis, List.append_nil]

theorem lowerAfter_append (before text after : List Char) :
    lowerAfter before (text ++ after) =
      lowerWithin before after text ++ lowerAfter (text.reverse ++ before) after := by
  induction text generalizing before with
  | nil =>
      rfl
  | cons c rest inductionHypothesis =>
      rw [List.cons_append, lowerAfter, lowerWithin, inductionHypothesis, List.append_assoc,
        List.reverse_cons, List.append_assoc, List.singleton_append]

/-- The lower case of a text in three parts is that of each part in its surroundings. -/
theorem lowercase_append_append (before text after : List Char) :
    lowercase (before ++ text ++ after) =
      lowerWithin [] (text ++ after) before ++ lowerWithin before.reverse after text ++
        lowerAfter (text.reverse ++ before.reverse) after := by
  rw [lowercase, List.append_assoc, lowerAfter_append, lowerAfter_append, List.append_nil,
    List.append_assoc]

/-! ## Sigmas -/

/-- Whether each capital sigma of a part ends a word in the text exactly where it does in the part. -/
def KeepsSigmas (before text after : List Char) : Prop :=
  ∀ front back,
    text = front ++ 'Σ' :: back →
    endsWord (front.reverse ++ before.reverse) (back ++ after) = endsWord front.reverse back

theorem length_lowerBetween
    (before after other more : List Char)
    (c : Char) :
    (lowerBetween before c after).length = (lowerBetween other c more).length := by
  unfold lowerBetween
  by_cases isSigma : c = 'Σ'
  · rw [if_pos isSigma, if_pos isSigma]
    split <;> split <;> rfl
  · rw [if_neg isSigma, if_neg isSigma]

theorem lowerBetween_eq_iff
    {before after other more : List Char}
    {c : Char} :
    lowerBetween before c after = lowerBetween other c more ↔
      (c = 'Σ' → endsWord before after = endsWord other more) := by
  unfold lowerBetween
  by_cases isSigma : c = 'Σ'
  · rw [if_pos isSigma, if_pos isSigma]
    cases endsWord before after <;> cases endsWord other more <;> simp [isSigma]
  · rw [if_neg isSigma, if_neg isSigma]
    exact ⟨fun _ => (absurd · isSigma), fun _ => rfl⟩

theorem length_lowerWithin
    (before after other more text : List Char) :
    (lowerWithin before after text).length = (lowerWithin other more text).length := by
  induction text generalizing before other with
  | nil =>
      rfl
  | cons c rest inductionHypothesis =>
      rw [lowerWithin, lowerWithin, List.length_append, List.length_append,
        length_lowerBetween before (rest ++ after) other (rest ++ more),
        inductionHypothesis (c :: before) (c :: other)]

/-- Two surroundings give a text the same lower case exactly if its sigmas end words in the same places. -/
theorem lowerWithin_eq_iff
    {before after other more text : List Char} :
    lowerWithin before after text = lowerWithin other more text ↔
      ∀ front back,
        text = front ++ 'Σ' :: back →
        endsWord (front.reverse ++ before) (back ++ after) =
          endsWord (front.reverse ++ other) (back ++ more) := by
  induction text generalizing before other with
  | nil =>
      constructor
      · intro _ front back split
        cases front <;> cases split
      · exact fun _ => rfl
  | cons c rest inductionHypothesis =>
      rw [lowerWithin, lowerWithin]
      constructor
      · intro same front back split
        obtain ⟨sameFirst, sameRest⟩ :=
          List.append_inj same (length_lowerBetween _ _ _ _ c)
        cases front with
        | nil =>
            obtain ⟨rfl, rfl⟩ := List.cons.inj split
            exact lowerBetween_eq_iff.mp sameFirst rfl
        | cons first front =>
            obtain ⟨rfl, rfl⟩ := List.cons.inj split
            have later := inductionHypothesis.mp sameRest front back rfl
            simpa using later
      · intro sigmas
        congr 1
        · rw [lowerBetween_eq_iff]
          rintro rfl
          exact sigmas [] rest rfl
        · rw [inductionHypothesis]
          rintro front back rfl
          have later := sigmas (c :: front) back rfl
          simpa using later

/-- A part has the same lower case in a text as alone exactly if it keeps its sigmas. -/
theorem lowerWithin_eq_lowercase_iff {before text after : List Char} :
    lowerWithin before.reverse after text = lowercase text ↔ KeepsSigmas before text after := by
  rw [lowercase, lowerAfter_eq_lowerWithin, lowerWithin_eq_iff]
  simp only [KeepsSigmas, List.append_nil]

/-- Without a capital sigma there is none to keep. -/
theorem keepsSigmas_of_not_mem
    {text : List Char}
    (noSigma : 'Σ' ∉ text)
    (before after : List Char) :
    KeepsSigmas before text after := by
  rintro front back rfl
  exact absurd (List.mem_append_right front List.mem_cons_self) noSigma

/-- More text that starts with no cased letter does not let any text start with one. -/
theorem startsCased_append_of_not
    {more : List Char}
    (notCased : startsCased more = false)
    (text : List Char) :
    startsCased (text ++ more) = startsCased text := by
  unfold startsCased at notCased ⊢
  rw [List.dropWhile_append]
  cases text.dropWhile fun c => caseIgnorableRanges.has c.toNat with
  | nil => exact notCased
  | cons c rest => rfl

/-- A part that no letter adjoins keeps its sigmas. -/
theorem keepsSigmas_of_apart
    {before after : List Char}
    (apartBefore : startsCased before.reverse = false)
    (apartAfter : startsCased after = false)
    (text : List Char) :
    KeepsSigmas before text after := by
  intro front back _
  rw [endsWord, endsWord, startsCased_append_of_not apartBefore, startsCased_append_of_not apartAfter]

end FeatureFlags.Text
