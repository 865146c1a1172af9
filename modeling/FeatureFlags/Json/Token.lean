import FeatureFlags.Json.Numeral
import FeatureFlags.Json.Quotation

namespace FeatureFlags.Json

/-!
# Tokens of JSON texts

A text is cut into punctuation, words, numbers and quoted texts. Numbers and texts
carry their value or the reason why they have none. A token that breaks off, or a
character that begins none, is the last token of interest, because no reader gets
beyond it.
-/

open FeatureFlags.Number (readDigits readSign)

/-- A token. -/
inductive Token where
  | openArray
  | closeArray
  | openObject
  | closeObject
  | colon
  | comma
  | null
  | bool (value : Bool)
  | number (value : Except Fault Tree)
  | text (value : Except Fault String)
  | brokenScalar (reading skipping : Fault)
  | brokenText (reading skipping : Fault)
  | stray

/-- The blanks of JSON. -/
def isJsonBlank (c : Char) : Bool :=
  c == ' ' || c == '\n' || c == '\t' || c == '\r'

/-- Drop the blanks at the front. -/
def skipBlanks (text : List Char) : List Char :=
  text.dropWhile isJsonBlank

/-- Read the rest of a word whose first letter has been seen. -/
def scanWord
    (token : Token) :
    List Char → List Char → Token × List Char
  | [], rest => (token, rest)
  | _ :: _, [] => (.brokenScalar .endInValue .endInValue, [])
  | expected :: letters, c :: rest =>
      if c = expected then
        scanWord token letters rest
      else
        (.brokenScalar .expectedWord .expectedWord, [])

/-- Read the rest of a quoted text whose opening quote has been seen. -/
def scanText (body : List Char) : Token × List Char :=
  let quotation := splitQuotation body
  match quotation.ending, quotation.join with
  | .closed rest, content => (.text (content.map String.ofList), rest)
  | ending, .error fault => (.brokenText fault ending.fault, [])
  | ending, .ok _ => (.brokenText ending.fault ending.fault, [])

/-- Read a number whose first character is given with the rest. -/
def scanNumber (text : List Char) : Token × List Char :=
  match scanNumeral text with
  | .found numeral rest => (.number numeral.value, rest)
  | .broken reading skipping => (.brokenScalar reading skipping, [])

/-- The punctuation that a character is. -/
def punctuation? : Char → Option Token
  | '[' => some .openArray
  | ']' => some .closeArray
  | '\x7b' => some .openObject
  | '\x7d' => some .closeObject
  | ':' => some .colon
  | ',' => some .comma
  | _ => none

/-- The word that begins with a letter, and the letters that are to follow. -/
def wordOf? : Char → Option (Token × List Char)
  | 'n' => some (.null, ['u', 'l', 'l'])
  | 't' => some (.bool true, ['r', 'u', 'e'])
  | 'f' => some (.bool false, ['a', 'l', 's', 'e'])
  | _ => none

/-- Read the token that begins with a given character. -/
def scanToken
    (first : Char)
    (rest : List Char) :
    Token × List Char :=
  match punctuation? first, wordOf? first with
  | some token, _ => (token, rest)
  | none, some (token, letters) => scanWord token letters rest
  | none, none =>
      if first = '"' then scanText rest
      else if first = '-' || first.isDigit then scanNumber (first :: rest)
      else (.stray, [])

private theorem length_dropWhile_le
    (skip : α → Bool)
    (items : List α) :
    (items.dropWhile skip).length ≤ items.length :=
  (List.dropWhile_sublist skip).length_le

private theorem length_scanWord_le
    (token : Token)
    (letters text : List Char) :
    (scanWord token letters text).2.length ≤ text.length := by
  induction letters generalizing text with
  | nil => simp [scanWord]
  | cons expected letters inductionHypothesis =>
      cases text with
      | nil => simp [scanWord]
      | cons c rest =>
          unfold scanWord
          split
          · exact Nat.le_succ_of_le (inductionHypothesis rest)
          · simp

/-- Missing digits do not end a text. -/
theorem missingDigits_ne_closed
    (text rest : List Char) :
    missingDigits text ≠ .closed rest := by
  unfold missingDigits
  split <;> simp

private theorem length_closed_splitQuotation
    (body rest : List Char)
    (closed : (splitQuotation body).ending = .closed rest) :
    rest.length ≤ body.length := by
  fun_induction splitQuotation body with
  | case1 => cases closed
  | case2 => cases closed
  | case3 _ _ _ _ _ _ _ inductionHypothesis =>
      have shorter := inductionHypothesis closed
      simp only [List.length_cons]
      omega
  | case4 => exact (missingDigits_ne_closed _ _ closed).elim
  | case5 => exact (missingDigits_ne_closed _ _ closed).elim
  | case6 _ _ _ _ _ _ inductionHypothesis =>
      have shorter := inductionHypothesis closed
      simp only [List.length_cons]
      omega
  | case7 => cases closed
  | case8 =>
      cases closed
      simp
  | case9 => cases closed
  | case10 _ _ _ _ _ _ _ inductionHypothesis =>
      have shorter := inductionHypothesis closed
      simp only [List.length_cons]
      omega

private theorem length_scanText_le (body : List Char) :
    (scanText body).2.length ≤ body.length := by
  unfold scanText
  dsimp only
  split
  · rename_i closed
    exact length_closed_splitQuotation body _ closed
  · simp
  · simp

private theorem length_readSign_le (text : List Char) :
    (readSign text).2.length ≤ text.length := by
  unfold readSign
  split <;> simp

private theorem digitWanted_ne_found
    {text rest : List Char}
    {numeral : Numeral}
    (found : digitWanted text = .found numeral rest) :
    False := by
  unfold digitWanted at found
  split at found <;> cases found

private theorem readDigits_eq
    {text digits rest : List Char}
    (parts : readDigits text = (digits, rest)) :
    text.length = digits.length + rest.length := by
  simp only [readDigits, Prod.mk.injEq] at parts
  rw [← parts.1, ← parts.2, ← List.length_append, List.takeWhile_append_dropWhile]

private theorem length_scanExponent_le
    {negative : Bool}
    {whole : List Char}
    {fraction : Option (List Char)}
    {text rest : List Char}
    {numeral : Numeral}
    (found : scanExponent negative whole fraction text = .found numeral rest) :
    rest.length ≤ text.length := by
  unfold scanExponent at found
  split at found
  · simp_all
  · rename_i mark text
    have signShorter := length_readSign_le text
    split at found
    · dsimp only at found
      split at found
      · exact (digitWanted_ne_found found).elim
      · rename_i digits after _ parts
        have digitsShorter := readDigits_eq parts
        simp only [NumeralScan.found.injEq] at found
        rw [← found.2, List.length_cons]
        omega
    · simp only [NumeralScan.found.injEq] at found
      exact Nat.le_of_eq (congrArg List.length found.2.symm)

private theorem length_scanFraction_le
    {negative : Bool}
    {whole : List Char}
    {text rest : List Char}
    {numeral : Numeral}
    (found : scanFraction negative whole text = .found numeral rest) :
    rest.length ≤ text.length := by
  unfold scanFraction at found
  split at found
  · rename_i text
    split at found
    · exact (digitWanted_ne_found found).elim
    · rename_i digits after _ parts
      have digitsShorter := readDigits_eq parts
      have shorter := length_scanExponent_le found
      rw [List.length_cons]
      omega
  · exact length_scanExponent_le found

private theorem length_scanWhole_lt
    {negative : Bool}
    {text rest : List Char}
    {numeral : Numeral}
    (found : scanWhole negative text = .found numeral rest) :
    rest.length < text.length := by
  unfold scanWhole at found
  split at found
  · exact (digitWanted_ne_found found).elim
  · rename_i after parts
    have digitsShorter := readDigits_eq parts
    have shorter := length_scanFraction_le found
    simp only [List.length_cons, List.length_nil] at digitsShorter
    omega
  · cases found
  · rename_i digits after nonempty _ _ parts
    have digitsShorter := readDigits_eq parts
    have shorter := length_scanFraction_le found
    have positive : 0 < digits.length :=
      List.length_pos_iff.mpr nonempty
    omega

private theorem length_scanNumber_le
    (first : Char)
    (rest : List Char) :
    (scanNumber (first :: rest)).2.length ≤ rest.length := by
  unfold scanNumber
  split
  · rename_i numeral after found
    unfold scanNumeral at found
    dsimp only
    split at found
    · rename_i text sameText
      have shorter := length_scanWhole_lt found
      simp only [List.cons.injEq] at sameText
      rw [sameText.2]
      omega
    · have shorter := length_scanWhole_lt found
      simp only [List.length_cons] at shorter
      omega
  · simp

/-- Scanning a token leaves no more than the text after its first character. -/
theorem length_scanToken_le
    (first : Char)
    (rest : List Char) :
    (scanToken first rest).2.length ≤ rest.length := by
  unfold scanToken
  split
  · exact Nat.le_refl _
  · exact length_scanWord_le _ _ _
  · split
    · exact length_scanText_le _
    · split
      · exact length_scanNumber_le _ _
      · simp

/-- The tokens of a text. -/
def tokens (text : List Char) : List Token :=
  match _skipped : skipBlanks text with
  | [] => []
  | first :: rest => (scanToken first rest).1 :: tokens (scanToken first rest).2
termination_by text.length
decreasing_by
  have tokenShorter := length_scanToken_le first rest
  have blanksShorter := length_dropWhile_le isJsonBlank text
  rw [show text.dropWhile isJsonBlank = first :: rest from _skipped] at blanksShorter
  simp only [List.length_cons] at blanksShorter
  omega

end FeatureFlags.Json
