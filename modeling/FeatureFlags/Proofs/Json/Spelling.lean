import FeatureFlags.Json.Document
import FeatureFlags.Proofs.Number.Digits

namespace FeatureFlags.Json

/-!
# Spellings of JSON values

The grammar of JSON texts, as a relation between values and the texts that spell
them: blanks around every value, key and mark, characters of a quoted text as they
are or escaped in any of the ways there are, numbers in any form. Every text of the
grammar is read as the document of the value that it spells.
-/

open FeatureFlags.Number (readDigits readDigits_append readSign)

/-! ## Blanks -/

/-- Blanks and nothing else. -/
def IsBlank (text : List Char) : Prop :=
  ∀ c ∈ text, isJsonBlank c = true

instance (text : List Char) : Decidable (IsBlank text) :=
  List.decidableBAll _ text

/-! ## Numerals -/

/-- At least one digit, and nothing else. -/
structure IsDigits (text : List Char) : Prop where
  nonempty : text ≠ []
  digits : ∀ c ∈ text, c.isDigit = true

/-- The spellings of the fraction of a numeral, which may be lacking. -/
inductive SpellsFraction : Option (List Char) → List Char → Prop where
  | lacking :
      SpellsFraction none []
  | point
      {digits : List Char} :
      IsDigits digits →
      SpellsFraction (some digits) ('.' :: digits)

/-- The spellings of the sign of an exponent; a plus may be left out. -/
inductive SpellsSign : Bool → List Char → Prop where
  | none :
      SpellsSign false []
  | plus :
      SpellsSign false ['+']
  | minus :
      SpellsSign true ['-']

/-- The spellings of the exponent of a numeral, which may be lacking. -/
inductive SpellsExponent : Option (Bool × List Char) → List Char → Prop where
  | lacking :
      SpellsExponent none []
  | mark
      {mark : Char}
      {lowered : Bool}
      {sign digits : List Char} :
      mark = 'e' ∨ mark = 'E' →
      SpellsSign lowered sign →
      IsDigits digits →
      SpellsExponent (some (lowered, digits)) (mark :: (sign ++ digits))

/-- The spellings of a numeral. A whole part that begins with a zero is that zero. -/
inductive SpellsNumeral : Numeral → List Char → Prop where
  | parts
      {negative : Bool}
      {whole : List Char}
      {fraction : Option (List Char)}
      {exponent : Option (Bool × List Char)}
      {fractionText exponentText : List Char} :
      IsDigits whole →
      (whole.head? = some '0' → whole = ['0']) →
      SpellsFraction fraction fractionText →
      SpellsExponent exponent exponentText →
      SpellsNumeral ⟨negative, whole, fraction, exponent⟩
        ((if negative then ['-'] else []) ++ (whole ++ (fractionText ++ exponentText)))

/-! ## Quoted texts -/

/-- The spellings of a text between quotes. -/
inductive SpellsText : List Char → List Char → Prop where
  | empty :
      SpellsText [] []
  | character
      {c : Char}
      {content body : List Char} :
      c ≠ '"' →
      c ≠ '\\' →
      0x20 ≤ c.toNat →
      SpellsText content body →
      SpellsText (c :: content) (c :: body)
  | escaped
      {mark c : Char}
      {content body : List Char} :
      simpleEscape? mark = some c →
      SpellsText content body →
      SpellsText (c :: content) ('\\' :: mark :: body)
  | unit
      {first second third fourth : Char}
      {value : Nat}
      {content body : List Char} :
      unitOfDigits? first second third fourth = some value →
      isLeadingSurrogate value = false →
      isTrailingSurrogate value = false →
      SpellsText content body →
      SpellsText (Char.ofNat value :: content)
        ('\\' :: 'u' :: first :: second :: third :: fourth :: body)
  | pair
      {first second third fourth first' second' third' fourth' : Char}
      {leading trailing : Nat}
      {content body : List Char} :
      unitOfDigits? first second third fourth = some leading →
      isLeadingSurrogate leading = true →
      unitOfDigits? first' second' third' fourth' = some trailing →
      isTrailingSurrogate trailing = true →
      SpellsText content body →
      SpellsText (joinSurrogates leading trailing :: content)
        ('\\' :: 'u' :: first :: second :: third :: fourth ::
          '\\' :: 'u' :: first' :: second' :: third' :: fourth' :: body)

/-- The spellings of a text with its quotes. -/
inductive SpellsQuoted : Except Fault String → List Char → Prop where
  | paired
      {content body : List Char} :
      SpellsText content body →
      SpellsQuoted (.ok (String.ofList content)) ('"' :: (body ++ ['"']))
  /-- A text with an unpaired surrogate has no content, which concerns only those who read it. -/
  | unpaired
      {fault : Fault}
      {body : List Char} :
      (splitQuotation (body ++ ['"'])).ending = .closed [] →
      (splitQuotation (body ++ ['"'])).join = .error fault →
      SpellsQuoted (.error fault) ('"' :: (body ++ ['"']))

/-- The spellings of a key, with blanks around it. -/
inductive SpellsKey : Except Fault String → List Char → Prop where
  | padded
      {key : Except Fault String}
      {before text after : List Char} :
      IsBlank before →
      SpellsQuoted key text →
      IsBlank after →
      SpellsKey key (before ++ (text ++ after))

/-! ## Values -/

mutual

/-- The spellings of a value without blanks around it. -/
inductive SpellsBare : Node → List Char → Prop where
  | null :
      SpellsBare .null ['n', 'u', 'l', 'l']
  | true :
      SpellsBare (.bool true) ['t', 'r', 'u', 'e']
  | false :
      SpellsBare (.bool false) ['f', 'a', 'l', 's', 'e']
  | number
      {numeral : Numeral}
      {text : List Char} :
      SpellsNumeral numeral text →
      SpellsBare (.number numeral.value) text
  | text
      {content : Except Fault String}
      {text : List Char} :
      SpellsQuoted content text →
      SpellsBare (.text content) text
  | emptyArray
      {inner : List Char} :
      IsBlank inner →
      SpellsBare (.array [] .closed) ('[' :: (inner ++ [']']))
  | array
      {items : List Node}
      {inner : List Char} :
      SpellsItems items inner →
      SpellsBare (.array items .closed) ('[' :: (inner ++ [']']))
  | emptyObject
      {inner : List Char} :
      IsBlank inner →
      SpellsBare (.object [] .closed) ('\x7b' :: (inner ++ ['\x7d']))
  | object
      {entries : List (Except Fault String × Node)}
      {inner : List Char} :
      SpellsEntries entries inner →
      SpellsBare (.object entries .closed) ('\x7b' :: (inner ++ ['\x7d']))

/-- The spellings of a value, with blanks around it. -/
inductive Spells : Node → List Char → Prop where
  | padded
      {node : Node}
      {before text after : List Char} :
      IsBlank before →
      SpellsBare node text →
      IsBlank after →
      Spells node (before ++ (text ++ after))

/-- The spellings of some items, with commas between them. -/
inductive SpellsItems : List Node → List Char → Prop where
  | last
      {node : Node}
      {text : List Char} :
      Spells node text →
      SpellsItems [node] text
  | next
      {node : Node}
      {rest : List Node}
      {text more : List Char} :
      Spells node text →
      SpellsItems rest more →
      SpellsItems (node :: rest) (text ++ (',' :: more))

/-- The spellings of some entries, with commas between them. -/
inductive SpellsEntries : List (Except Fault String × Node) → List Char → Prop where
  | last
      {key : Except Fault String}
      {node : Node}
      {keyText text : List Char} :
      SpellsKey key keyText →
      Spells node text →
      SpellsEntries [(key, node)] (keyText ++ (':' :: text))
  | next
      {key : Except Fault String}
      {node : Node}
      {rest : List (Except Fault String × Node)}
      {keyText text more : List Char} :
      SpellsKey key keyText →
      Spells node text →
      SpellsEntries rest more →
      SpellsEntries ((key, node) :: rest) (keyText ++ (':' :: (text ++ (',' :: more))))

end

/-! ## Plain spellings -/

/-- Whether a text may stand between quotes as it is. -/
def IsPlain (content : String) : Prop :=
  ∀ c ∈ content.toList, c ≠ '"' ∧ c ≠ '\\' ∧ 0x20 ≤ c.toNat

instance (content : String) : Decidable (IsPlain content) :=
  List.decidableBAll _ content.toList

theorem SpellsText.of_isPlain
    {content : String}
    (plain : IsPlain content) :
    SpellsText content.toList content.toList := by
  unfold IsPlain at plain
  generalize content.toList = characters at plain ⊢
  induction characters with
  | nil =>
      exact .empty
  | cons c rest inductionHypothesis =>
      obtain ⟨notQuote, notEscape, printable⟩ := plain c List.mem_cons_self
      exact .character notQuote notEscape printable
        (inductionHypothesis fun other member => plain other (List.mem_cons_of_mem _ member))

theorem SpellsQuoted.of_isPlain
    (content : String)
    (plain : IsPlain content) :
    SpellsQuoted (.ok content) ('"' :: (content.toList ++ ['"'])) := by
  have quoted := SpellsQuoted.paired (.of_isPlain plain)
  rwa [String.ofList_toList] at quoted

theorem SpellsKey.of_quoted
    {key : Except Fault String}
    {text : List Char}
    (spelled : SpellsQuoted key text) :
    SpellsKey key text := by
  have padded := @SpellsKey.padded _ [] _ [] (List.forall_mem_nil _) spelled (List.forall_mem_nil _)
  rwa [List.append_nil] at padded

theorem SpellsKey.of_isPlain
    (key : String)
    (plain : IsPlain key) :
    SpellsKey (.ok key) ('"' :: (key.toList ++ ['"'])) :=
  .of_quoted (.of_isPlain key plain)

theorem Spells.of_bare
    {node : Node}
    {text : List Char}
    (spelled : SpellsBare node text) :
    Spells node text := by
  have padded := @Spells.padded _ [] _ [] nofun spelled nofun
  rwa [List.append_nil] at padded

theorem Spells.of_isPlain
    (content : String)
    (plain : IsPlain content) :
    Spells (.text (.ok content)) ('"' :: (content.toList ++ ['"'])) :=
  .of_bare (.text (.of_isPlain content plain))

/-! ## Scanning numerals -/

/-- What may follow a number: nothing that would continue it. -/
def EndsNumber (rest : List Char) : Prop :=
  ∀ c ∈ rest.head?, c.isDigit = false ∧ c ≠ '.' ∧ c ≠ 'e' ∧ c ≠ 'E'

/-- A sign is read up to the digits that follow it. -/
theorem readSign_append
    {lowered : Bool}
    {sign digits : List Char}
    (signed : SpellsSign lowered sign)
    (areDigits : IsDigits digits)
    (rest : List Char) :
    readSign (sign ++ (digits ++ rest)) = (lowered, digits ++ rest) := by
  obtain ⟨digit, more, rfl⟩ := List.exists_cons_of_ne_nil areDigits.nonempty
  have isDigit := areDigits.digits digit List.mem_cons_self
  cases signed with
  | none =>
      -- A digit is no sign.
      have notMinus : digit ≠ '-' := by rintro rfl; cases isDigit
      have notPlus : digit ≠ '+' := by rintro rfl; cases isDigit
      simp [readSign, notMinus, notPlus]
  | plus | minus =>
      rfl

/-- What follows the fraction of a numeral is neither a digit nor a point. -/
theorem SpellsExponent.head_append
    {exponent : Option (Bool × List Char)}
    {text rest : List Char}
    (spelled : SpellsExponent exponent text)
    (ends : EndsNumber rest) :
    ∀ c ∈ (text ++ rest).head?, c.isDigit = false ∧ c ≠ '.' := by
  intro c first
  cases spelled with
  | lacking =>
      exact ⟨(ends c first).1, (ends c first).2.1⟩
  | mark isMark =>
      cases first
      rcases isMark with rfl | rfl <;> decide

/-- The exponent of a numeral is read up to what follows it. -/
theorem scanExponent_append
    {exponent : Option (Bool × List Char)}
    {text rest : List Char}
    (spelled : SpellsExponent exponent text)
    (ends : EndsNumber rest)
    (negative : Bool)
    (whole : List Char)
    (fraction : Option (List Char)) :
    scanExponent negative whole fraction (text ++ rest) =
      .found ⟨negative, whole, fraction, exponent⟩ rest := by
  cases spelled with
  | lacking =>
      cases rest with
      | nil =>
          rfl
      | cons c rest =>
          obtain ⟨-, -, notLower, notUpper⟩ := ends c rfl
          simp [scanExponent, notLower, notUpper]
  | @mark mark lowered sign digits isMark signed areDigits =>
      have parts := readDigits_append areDigits.digits fun c first => (ends c first).1
      have signRead := readSign_append signed areDigits rest
      obtain ⟨digit, more, rfl⟩ := List.exists_cons_of_ne_nil areDigits.nonempty
      simp only [List.cons_append, List.append_assoc, scanExponent, isMark, ↓reduceIte]
      rw [← List.cons_append, signRead, parts]

/-- The fraction and the exponent of a numeral are read up to what follows them. -/
theorem scanFraction_append
    {fraction : Option (List Char)}
    {exponent : Option (Bool × List Char)}
    {fractionText exponentText rest : List Char}
    (fractionSpelled : SpellsFraction fraction fractionText)
    (exponentSpelled : SpellsExponent exponent exponentText)
    (ends : EndsNumber rest)
    (negative : Bool)
    (whole : List Char) :
    scanFraction negative whole (fractionText ++ (exponentText ++ rest)) =
      .found ⟨negative, whole, fraction, exponent⟩ rest := by
  have exponentRead := scanExponent_append exponentSpelled ends negative whole
  have follows := exponentSpelled.head_append ends
  cases fractionSpelled with
  | lacking =>
      cases following : exponentText ++ rest with
      | nil =>
          simpa [scanFraction, following] using exponentRead none
      | cons c more =>
          rw [following] at follows
          have notPoint := (follows c rfl).2
          simpa [scanFraction, following, notPoint] using exponentRead none
  | @point digits areDigits =>
      have parts := readDigits_append areDigits.digits fun c first => (follows c first).1
      obtain ⟨digit, more, rfl⟩ := List.exists_cons_of_ne_nil areDigits.nonempty
      simp only [List.cons_append, scanFraction]
      rw [← List.cons_append, parts]
      exact exponentRead (some (digit :: more))

/-- What follows the whole part of a spelled numeral is no digit. -/
theorem not_isDigit_of_follows
    {fraction : Option (List Char)}
    {exponent : Option (Bool × List Char)}
    {fractionText exponentText rest : List Char}
    (fractionSpelled : SpellsFraction fraction fractionText)
    (exponentSpelled : SpellsExponent exponent exponentText)
    (ends : EndsNumber rest) :
    ∀ c ∈ (fractionText ++ (exponentText ++ rest)).head?, c.isDigit = false := by
  intro c first
  cases fractionSpelled with
  | point =>
      cases first
      rfl
  | lacking =>
      cases exponentSpelled with
      | lacking =>
          exact (ends c first).1
      | mark isMark =>
          cases first
          rcases isMark with rfl | rfl <;> rfl

/-- A numeral is read up to what follows it. -/
theorem scanNumeral_append
    {numeral : Numeral}
    {text rest : List Char}
    (spelled : SpellsNumeral numeral text)
    (ends : EndsNumber rest) :
    scanNumeral (text ++ rest) = .found numeral rest := by
  cases spelled with
  | @parts negative whole fraction exponent fractionText exponentText areDigits noLeadingZero
      fractionSpelled exponentSpelled =>
      have parts :=
        readDigits_append areDigits.digits
          (not_isDigit_of_follows fractionSpelled exponentSpelled ends)
      have fractionRead := scanFraction_append fractionSpelled exponentSpelled ends
      obtain ⟨digit, more, rfl⟩ := List.exists_cons_of_ne_nil areDigits.nonempty
      have isDigit := areDigits.digits digit List.mem_cons_self
      have wholeRead (negative : Bool) :
          scanWhole negative
              (digit :: more ++ (fractionText ++ (exponentText ++ rest))) =
            .found ⟨negative, digit :: more, fraction, exponent⟩ rest := by
        rw [scanWhole, parts]
        by_cases zero : digit = '0'
        · subst zero
          cases noLeadingZero rfl
          exact fractionRead negative ['0']
        · split
          next read =>
            cases read
          next read =>
            cases read
            exact absurd rfl zero
          next read =>
            cases read
            exact absurd rfl zero
          next read =>
            cases read
            exact fractionRead negative (digit :: more)
      have notMinus : digit ≠ '-' := by rintro rfl; cases isDigit
      cases negative with
      | true =>
          simpa [scanNumeral] using wholeRead true
      | false =>
          have read := wholeRead false
          simp only [List.cons_append] at read
          simp [scanNumeral, notMinus, read]

/-! ## Scanning quoted texts -/

namespace Quotation

/-- A quotation with more text after its end. -/
def followedBy
    (more : List Char) :
    Quotation → Quotation
  | .ended (.closed rest) => .ended (.closed (rest ++ more))
  | .ended ending => .ended ending
  | .piece head tail => .piece head (tail.followedBy more)

theorem ending_followedBy
    {quotation : Quotation}
    {rest : List Char}
    (closed : quotation.ending = .closed rest)
    (more : List Char) :
    (quotation.followedBy more).ending = .closed (rest ++ more) := by
  induction quotation with
  | ended ending =>
      obtain rfl : ending = .closed rest := closed
      rfl
  | piece head tail inductionHypothesis =>
      exact inductionHypothesis closed

/-- A unit that is no surrogate stands for a character. -/
theorem join_unit
    {value : Nat}
    (notTrailing : isTrailingSurrogate value = false)
    (notLeading : isLeadingSurrogate value = false)
    (tail : Quotation) :
    join (.piece (.unit value) tail) = (Char.ofNat value :: ·) <$> tail.join :=
  (join.eq_def _).trans (by simp [notTrailing, notLeading])

/-- A trailing surrogate without a leading one stands for nothing. -/
theorem join_trailing
    {value : Nat}
    (isTrailing : isTrailingSurrogate value = true)
    (tail : Quotation) :
    join (.piece (.unit value) tail) = .error .loneSurrogate :=
  (join.eq_def _).trans (by simp [isTrailing])

/-- What follows a quotation does not change its content. -/
theorem join_followedBy
    (quotation : Quotation)
    {rest : List Char}
    (closed : quotation.ending = .closed rest)
    (more : List Char) :
    (quotation.followedBy more).join = quotation.join := by
  fun_induction join quotation with
  | case1 =>
      rfl
  | case2 ending notClosed =>
      exact (notClosed rest closed).elim
  | case3 c tail inductionHypothesis =>
      simp [followedBy, join, inductionHypothesis closed]
  | case4 c tail inductionHypothesis =>
      simp [followedBy, join, inductionHypothesis closed]
  | case5 value tail isTrailing =>
      exact join_trailing isTrailing _
  | case6 value notTrailing isLeading ending =>
      obtain rfl : ending = .closed rest := closed
      simp [followedBy, join, notTrailing, isLeading, Ending.partnerFault]
  | case7 value notTrailing isLeading partner tail isPartner inductionHypothesis =>
      simp [followedBy, join, notTrailing, isLeading, isPartner, inductionHypothesis closed]
  | case8 value notTrailing isLeading partner tail notPartner =>
      simp [followedBy, join, notTrailing, isLeading, notPartner]
  | case9 value notTrailing isLeading head tail notUnit =>
      cases head with
      | unit partner =>
          exact (notUnit partner rfl).elim
      | character | escaped =>
          simp [followedBy, join, notTrailing, isLeading]
  | case10 value tail notTrailing notLeading inductionHypothesis =>
      rw [followedBy, join_unit (by simpa using notTrailing) (by simpa using notLeading),
        inductionHypothesis closed]

end Quotation

/-- A text that follows the closing quote is left over. -/
theorem splitQuotation_append
    {body rest : List Char}
    (closed : (splitQuotation body).ending = .closed rest)
    (more : List Char) :
    splitQuotation (body ++ more) = (splitQuotation body).followedBy more := by
  fun_induction splitQuotation body with
  | case1 | case2 | case7 | case9 =>
      cases closed
  | case3 first second third fourth body value isUnit inductionHypothesis =>
      simp [splitQuotation, isUnit, Quotation.followedBy, inductionHypothesis closed]
  | case4 | case5 =>
      exact (missingDigits_ne_closed _ _ closed).elim
  | case6 mark body notDigits notUnit c isEscape inductionHypothesis =>
      simp [splitQuotation, notUnit, isEscape, Quotation.followedBy, inductionHypothesis closed]
  | case8 =>
      rfl
  | case10 c body notLast notDigits notEscape notQuote notControl inductionHypothesis =>
      have notBackslash : c ≠ '\\' := by
        rintro rfl
        cases body with
        | nil => exact notLast rfl rfl
        | cons mark body => exact notEscape mark body rfl rfl
      simp [splitQuotation, notBackslash, notQuote, notControl, Quotation.followedBy,
        inductionHypothesis closed]

/-- The body of a quoted text is split up to its closing quote, and joined to its content. -/
theorem splitQuotation_spelled
    {content body : List Char}
    (spelled : SpellsText content body) :
    (splitQuotation (body ++ ['"'])).ending = .closed [] ∧
      (splitQuotation (body ++ ['"'])).join = .ok content := by
  induction spelled with
  | empty =>
      exact ⟨rfl, rfl⟩
  | @character c content body notQuote notBackslash notControl _ inductionHypothesis =>
      have shape :
          splitQuotation (c :: body ++ ['"']) =
            .piece (.character c) (splitQuotation (body ++ ['"'])) := by
        simp [splitQuotation, notBackslash, notQuote, Nat.not_lt.mpr notControl]
      rw [shape]
      exact ⟨inductionHypothesis.1, by rw [Quotation.join, inductionHypothesis.2]; rfl⟩
  | @escaped mark c content body isEscape _ inductionHypothesis =>
      have notUnit : mark ≠ 'u' := by
        rintro rfl
        cases isEscape
      have shape :
          splitQuotation ('\\' :: mark :: body ++ ['"']) =
            .piece (.escaped c) (splitQuotation (body ++ ['"'])) := by
        simp [splitQuotation, notUnit, isEscape]
      rw [shape]
      exact ⟨inductionHypothesis.1, by rw [Quotation.join, inductionHypothesis.2]; rfl⟩
  | @unit first second third fourth value content body isUnit notLeading notTrailing _
      inductionHypothesis =>
      simp only [List.cons_append, splitQuotation, isUnit]
      rw [Quotation.join_unit notTrailing notLeading, inductionHypothesis.2]
      exact ⟨inductionHypothesis.1, rfl⟩
  | @pair _ _ _ _ _ _ _ _ leading trailing content body isUnit isLeading isPartner isTrailing _
      inductionHypothesis =>
      have notTrailing : isTrailingSurrogate leading = false := by
        simp only [isLeadingSurrogate, isTrailingSurrogate, Bool.and_eq_true, Bool.and_eq_false_iff,
          decide_eq_true_eq, decide_eq_false_iff_not] at isLeading ⊢
        omega
      simp only [List.cons_append, splitQuotation, isUnit, isPartner]
      refine ⟨inductionHypothesis.1, ?_⟩
      simp only [Quotation.join, notTrailing, isLeading, isTrailing, inductionHypothesis.2,
        Bool.false_eq_true, ↓reduceIte]
      rfl

/-- A quoted text begins with a quote and is scanned up to the closing one. -/
theorem SpellsQuoted.exists_cons
    {content : Except Fault String}
    {text : List Char}
    (spelled : SpellsQuoted content text) :
    ∃ inner,
      text = '"' :: inner ∧ ∀ rest, scanText (inner ++ rest) = (.text content, rest) := by
  have scanned
      {body : List Char}
      {joined : Except Fault (List Char)}
      (closed : (splitQuotation (body ++ ['"'])).ending = .closed [])
      (joins : (splitQuotation (body ++ ['"'])).join = joined)
      (rest : List Char) :
      scanText (body ++ ['"'] ++ rest) = (.text (joined.map String.ofList), rest) := by
    rw [scanText, splitQuotation_append closed, Quotation.ending_followedBy closed,
      Quotation.join_followedBy _ closed, joins]
    rfl
  cases spelled with
  | paired spelled =>
      obtain ⟨closed, joins⟩ := splitQuotation_spelled spelled
      exact ⟨_, rfl, scanned closed joins⟩
  | unpaired closed joins =>
      exact ⟨_, rfl, scanned closed joins⟩

end FeatureFlags.Json
