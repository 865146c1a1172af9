import FeatureFlags.Proofs.Json.Spelling

namespace FeatureFlags.Json

/-!
# Documents of spelled values

Reading token by token, every text that spells a value is taken up to its end, and the
value is put where it was waited for, whatever is open around it. The document of a
whole text is therefore the value that the text spells, with nothing left over.
-/

/-! ## Tokens -/

private theorem skipBlanks_append
    {before : List Char}
    (blank : IsBlank before)
    (rest : List Char) :
    skipBlanks (before ++ rest) = skipBlanks rest :=
  List.dropWhile_append_of_pos blank

/-- A text is at its end where only blanks are left. -/
theorem tokens_of_skipBlanks_nil
    {text : List Char}
    (skipped : skipBlanks text = []) :
    tokens text = [] := by
  rw [tokens]
  split
  next =>
    rfl
  next found =>
    cases skipped.symm.trans found

/-- The first character that is no blank begins a token. -/
theorem tokens_of_skipBlanks_cons
    {text rest : List Char}
    {first : Char}
    (skipped : skipBlanks text = first :: rest) :
    tokens text = (scanToken first rest).1 :: tokens (scanToken first rest).2 := by
  rw [tokens]
  split
  next found =>
    cases skipped.symm.trans found
  next found =>
    cases skipped.symm.trans found
    rfl

/-- Blanks are no tokens. -/
theorem tokens_append_of_blank
    {before : List Char}
    (blank : IsBlank before)
    (rest : List Char) :
    tokens (before ++ rest) = tokens rest := by
  cases skipped : skipBlanks rest with
  | nil =>
      rw [tokens_of_skipBlanks_nil skipped,
        tokens_of_skipBlanks_nil ((skipBlanks_append blank rest).trans skipped)]
  | cons first more =>
      rw [tokens_of_skipBlanks_cons skipped,
        tokens_of_skipBlanks_cons ((skipBlanks_append blank rest).trans skipped)]

/-- A digit or a minus begins a number. -/
theorem scanToken_of_numeral
    {first : Char}
    (begins : first = '-' ∨ first.isDigit = true)
    (rest : List Char) :
    scanToken first rest = scanNumber (first :: rest) := by
  have noMark : punctuation? first = none := by
    unfold punctuation?
    split <;> first | rfl | (rcases begins with begins | begins <;> cases begins)
  have noWord : wordOf? first = none := by
    unfold wordOf?
    split <;> first | rfl | (rcases begins with begins | begins <;> cases begins)
  have noQuote : first ≠ '"' := by
    rintro rfl
    rcases begins with begins | begins <;> cases begins
  simp only [scanToken, noMark, noWord, noQuote, ↓reduceIte]
  rcases begins with rfl | isDigit
  · rfl
  · simp [isDigit]

/-- A spelled numeral begins with a digit or a minus. -/
theorem SpellsNumeral.exists_cons
    {numeral : Numeral}
    {text : List Char}
    (spelled : SpellsNumeral numeral text) :
    ∃ first rest, text = first :: rest ∧ (first = '-' ∨ first.isDigit = true) := by
  cases spelled with
  | @parts negative whole _ _ _ _ areDigits =>
      cases negative with
      | true =>
          exact ⟨_, _, rfl, .inl rfl⟩
      | false =>
          obtain ⟨digit, more, rfl⟩ := List.exists_cons_of_ne_nil areDigits.nonempty
          exact ⟨_, _, rfl, .inr (areDigits.digits digit List.mem_cons_self)⟩

private theorem isJsonBlank_of_numeral
    {first : Char}
    (begins : first = '-' ∨ first.isDigit = true) :
    isJsonBlank first = false := by
  simp only [isJsonBlank, Bool.or_eq_false_iff, beq_eq_false_iff_ne, ne_eq]
  refine ⟨⟨⟨?_, ?_⟩, ?_⟩, ?_⟩ <;> rintro rfl <;> rcases begins with begins | begins <;> cases begins

/-- A number ends where blanks or a mark follow. -/
theorem endsNumber_append
    {after rest : List Char}
    (blank : IsBlank after)
    (ends : EndsNumber rest) :
    EndsNumber (after ++ rest) := by
  intro c first
  cases after with
  | nil =>
      exact ends c first
  | cons head after =>
      cases first
      have isBlank := blank c List.mem_cons_self
      simp only [isJsonBlank, Bool.or_eq_true, beq_iff_eq] at isBlank
      rcases isBlank with ((rfl | rfl) | rfl) | rfl <;> decide

/-! ## Builders -/

namespace Builder

/-- A builder after the tokens of a text. -/
def feed
    (builder : Builder)
    (text : List Char) :
    Builder :=
  (tokens text).foldl step builder

/-- Blanks change nothing. -/
theorem feed_blank
    {before : List Char}
    (blank : IsBlank before)
    (builder : Builder)
    (rest : List Char) :
    builder.feed (before ++ rest) = builder.feed rest := by
  rw [feed, tokens_append_of_blank blank, feed]

/-- One token is read after the other. -/
theorem feed_token
    {first : Char}
    {text rest : List Char}
    {token : Token}
    (notBlank : isJsonBlank first = false)
    (scanned : scanToken first text = (token, rest))
    (builder : Builder) :
    builder.feed (first :: text) = (builder.step token).feed rest := by
  have kept : skipBlanks (first :: text) = first :: text := by
    simp [skipBlanks, notBlank]
  rw [feed, tokens_of_skipBlanks_cons kept, scanned]
  rfl

/-- Where a value may begin inside of some open containers. -/
def AwaitsValue
    (frames : List Frame)
    (builder : Builder) :
    Prop :=
  ∀ token, token ≠ .closeArray → builder.step token = beginValue frames token

theorem awaitsValue_value (frames : List Frame) :
    AwaitsValue frames (.value frames) :=
  fun _ _ => rfl

theorem awaitsValue_firstItem (frames : List Frame) :
    AwaitsValue (.array [] :: frames) (.firstItem frames) := by
  intro token notClose
  cases token <;> first | rfl | exact absurd rfl notClose

theorem awaitsValue_nextItem
    (before : List Node)
    (frames : List Frame) :
    AwaitsValue (.array before :: frames) (.nextItem before frames) := by
  intro token notClose
  cases token <;> first | rfl | exact absurd rfl notClose

/-- Where a key may begin in an open object. -/
def AwaitsEntry
    (before : List (Except Fault String × Node))
    (frames : List Frame)
    (builder : Builder) :
    Prop :=
  ∀ token, token ≠ .closeObject → builder.step token = beginEntry before frames token

theorem awaitsEntry_firstEntry (frames : List Frame) :
    AwaitsEntry [] frames (.firstEntry frames) := by
  intro token notClose
  cases token <;> first | rfl | exact absurd rfl notClose

theorem awaitsEntry_nextEntry
    (before : List (Except Fault String × Node))
    (frames : List Frame) :
    AwaitsEntry before frames (.nextEntry before frames) := by
  intro token notClose
  cases token <;> first | rfl | exact absurd rfl notClose

/-- A quoted text is one token. -/
private theorem feed_quoted
    {content : Except Fault String}
    {text : List Char}
    (spelled : SpellsQuoted content text)
    (builder : Builder)
    (rest : List Char) :
    builder.feed (text ++ rest) = (builder.step (.text content)).feed rest := by
  obtain ⟨inner, rfl, scanned⟩ := spelled.exists_cons
  have token : scanToken '"' (inner ++ rest) = (.text content, rest) :=
    scanned rest
  exact feed_token rfl token builder

/-- A key and its colon are read. -/
theorem feed_key
    {key : Except Fault String}
    {keyText : List Char}
    (spelled : SpellsKey key keyText)
    {before : List (Except Fault String × Node)}
    {frames : List Frame}
    {builder : Builder}
    (awaits : AwaitsEntry before frames builder)
    (rest : List Char) :
    builder.feed (keyText ++ (':' :: rest)) = (value (.object before key :: frames)).feed rest := by
  cases spelled with
  | @padded blank text after blankBefore spelled blankAfter =>
      calc
        builder.feed (blank ++ (text ++ after) ++ (':' :: rest))
          = (builder.step (.text key)).feed (after ++ (':' :: rest)) := by
            rw [List.append_assoc, List.append_assoc, feed_blank blankBefore, feed_quoted spelled]
        _ = (colon before key frames).feed (':' :: rest) := by
            rw [awaits (.text _) nofun, feed_blank blankAfter]
            rfl
        _ = (value (.object before key :: frames)).feed rest :=
            feed_token rfl rfl _

/-! ## Values -/

/-- A number is put where a value is waited for, if what follows does not continue it. -/
private theorem feed_number
    {numeral : Numeral}
    {text : List Char}
    (spelled : SpellsNumeral numeral text)
    {frames : List Frame}
    {builder : Builder}
    (awaits : AwaitsValue frames builder)
    {rest : List Char}
    (ends : EndsNumber rest) :
    builder.feed (text ++ rest) = (put (.number numeral.value) frames).feed rest := by
  have read := scanNumeral_append spelled ends
  obtain ⟨first, more, rfl, begins⟩ := spelled.exists_cons
  have scanned : scanToken first (more ++ rest) = (.number numeral.value, rest) := by
    rw [scanToken_of_numeral begins, scanNumber, ← List.cons_append, read]
  exact
    (feed_token (isJsonBlank_of_numeral begins) scanned builder).trans
      (congrArg (feed · rest) (awaits (.number _) nofun))

/-- A bracket opens an array. -/
private theorem feed_openArray
    {frames : List Frame}
    {builder : Builder}
    (awaits : AwaitsValue frames builder)
    (text : List Char) :
    builder.feed ('[' :: text) = (firstItem frames).feed text :=
  (feed_token rfl rfl builder).trans (congrArg (feed · text) (awaits .openArray nofun))

/-- A brace opens an object. -/
private theorem feed_openObject
    {frames : List Frame}
    {builder : Builder}
    (awaits : AwaitsValue frames builder)
    (text : List Char) :
    builder.feed ('\x7b' :: text) = (firstEntry frames).feed text :=
  (feed_token rfl rfl builder).trans (congrArg (feed · text) (awaits .openObject nofun))

/-- A mark that stands between values ends a number. -/
private theorem endsNumber_mark
    {mark : Char}
    (isMark : mark = ',' ∨ mark = ']' ∨ mark = '\x7d')
    (rest : List Char) :
    EndsNumber (mark :: rest) := by
  intro c first
  cases first
  rcases isMark with rfl | rfl | rfl <;> decide

mutual

/-- A value is put where one is waited for, if what follows does not continue it. -/
theorem feed_bare
    {node : Node}
    {text : List Char}
    (spelled : SpellsBare node text)
    {frames : List Frame}
    {builder : Builder}
    (awaits : AwaitsValue frames builder)
    {rest : List Char}
    (ends : EndsNumber rest) :
    builder.feed (text ++ rest) = (put node frames).feed rest := by
  match spelled with
  | .null =>
      exact (feed_token rfl rfl builder).trans (congrArg (feed · rest) (awaits .null nofun))
  | .true | .false =>
      exact (feed_token rfl rfl builder).trans (congrArg (feed · rest) (awaits (.bool _) nofun))
  | .number spelledNumeral =>
      exact feed_number spelledNumeral awaits ends
  | .text spelledText =>
      exact
        (feed_quoted spelledText builder rest).trans (congrArg (feed · rest) (awaits (.text _) nofun))
  | @SpellsBare.emptyArray inner blank =>
      calc
        builder.feed ('[' :: (inner ++ [']']) ++ rest)
          = (firstItem frames).feed (inner ++ (']' :: rest)) := by
            rw [List.cons_append, List.append_assoc]
            exact feed_openArray awaits _
        _ = (firstItem frames).feed (']' :: rest) := feed_blank blank _ _
        _ = (put (.array [] .closed) frames).feed rest := feed_token rfl rfl _
  | @SpellsBare.array items inner spelledItems =>
      calc
        builder.feed ('[' :: (inner ++ [']']) ++ rest)
          = (firstItem frames).feed (inner ++ (']' :: rest)) := by
            rw [List.cons_append, List.append_assoc]
            exact feed_openArray awaits _
        _ = (put (.array items .closed) frames).feed rest :=
            feed_items spelledItems (awaitsValue_firstItem frames) rest
  | @SpellsBare.emptyObject inner blank =>
      calc
        builder.feed ('\x7b' :: (inner ++ ['\x7d']) ++ rest)
          = (firstEntry frames).feed (inner ++ ('\x7d' :: rest)) := by
            rw [List.cons_append, List.append_assoc]
            exact feed_openObject awaits _
        _ = (firstEntry frames).feed ('\x7d' :: rest) := feed_blank blank _ _
        _ = (put (.object [] .closed) frames).feed rest := feed_token rfl rfl _
  | @SpellsBare.object entries inner spelledEntries =>
      calc
        builder.feed ('\x7b' :: (inner ++ ['\x7d']) ++ rest)
          = (firstEntry frames).feed (inner ++ ('\x7d' :: rest)) := by
            rw [List.cons_append, List.append_assoc]
            exact feed_openObject awaits _
        _ = (put (.object entries .closed) frames).feed rest :=
            feed_entries spelledEntries (awaitsEntry_firstEntry frames) rest

/-- Blanks around a value change nothing. -/
theorem feed_spelled
    {node : Node}
    {text : List Char}
    (spelled : Spells node text)
    {frames : List Frame}
    {builder : Builder}
    (awaits : AwaitsValue frames builder)
    {rest : List Char}
    (ends : EndsNumber rest) :
    builder.feed (text ++ rest) = (put node frames).feed rest := by
  match spelled with
  | .padded blankBefore spelledBare blankAfter =>
      have read := feed_bare spelledBare awaits (endsNumber_append blankAfter ends)
      rw [List.append_assoc, List.append_assoc, feed_blank blankBefore, read,
        feed_blank blankAfter]

/-- Items are put into their array one after the other, up to its bracket. -/
theorem feed_items
    {items : List Node}
    {text : List Char}
    (spelled : SpellsItems items text)
    {before : List Node}
    {frames : List Frame}
    {builder : Builder}
    (awaits : AwaitsValue (.array before :: frames) builder)
    (rest : List Char) :
    builder.feed (text ++ (']' :: rest)) =
      (put (.array (before.reverse ++ items) .closed) frames).feed rest := by
  match spelled with
  | @SpellsItems.last node text spelledItem =>
      calc
        builder.feed (text ++ (']' :: rest))
          = (afterItem (node :: before) frames).feed (']' :: rest) :=
            feed_spelled spelledItem awaits (endsNumber_mark (by simp) rest)
        _ = (put (.array (node :: before).reverse .closed) frames).feed rest :=
            feed_token rfl rfl _
        _ = _ := by rw [List.reverse_cons]
  | @SpellsItems.next node others text more spelledItem spelledRest =>
      calc
        builder.feed (text ++ (',' :: more) ++ (']' :: rest))
          = (afterItem (node :: before) frames).feed (',' :: (more ++ (']' :: rest))) := by
            rw [List.append_assoc, List.cons_append]
            exact feed_spelled spelledItem awaits (endsNumber_mark (by simp) _)
        _ = (nextItem (node :: before) frames).feed (more ++ (']' :: rest)) :=
            feed_token rfl rfl _
        _ = (put (.array ((node :: before).reverse ++ others) .closed) frames).feed rest :=
            feed_items spelledRest (awaitsValue_nextItem _ frames) rest
        _ = _ := by rw [List.reverse_cons, List.append_assoc, List.singleton_append]

/-- Entries are put into their object one after the other, up to its brace. -/
theorem feed_entries
    {entries : List (Except Fault String × Node)}
    {text : List Char}
    (spelled : SpellsEntries entries text)
    {before : List (Except Fault String × Node)}
    {frames : List Frame}
    {builder : Builder}
    (awaits : AwaitsEntry before frames builder)
    (rest : List Char) :
    builder.feed (text ++ ('\x7d' :: rest)) =
      (put (.object (before.reverse ++ entries) .closed) frames).feed rest := by
  match spelled with
  | @SpellsEntries.last key node keyText text spelledKey spelledValue =>
      calc
        builder.feed (keyText ++ (':' :: text) ++ ('\x7d' :: rest))
          = (value (.object before key :: frames)).feed (text ++ ('\x7d' :: rest)) := by
            rw [List.append_assoc, List.cons_append]
            exact feed_key spelledKey awaits _
        _ = (afterEntry ((key, node) :: before) frames).feed ('\x7d' :: rest) :=
            feed_spelled spelledValue (awaitsValue_value _) (endsNumber_mark (by simp) rest)
        _ = (put (.object ((key, node) :: before).reverse .closed) frames).feed rest :=
            feed_token rfl rfl _
        _ = _ := by rw [List.reverse_cons]
  | @SpellsEntries.next key node others keyText text more spelledKey spelledValue
      spelledRest =>
      calc
        builder.feed (keyText ++ (':' :: (text ++ (',' :: more))) ++ ('\x7d' :: rest))
          = (value (.object before key :: frames)).feed
              (text ++ (',' :: (more ++ ('\x7d' :: rest)))) := by
            rw [List.append_assoc, List.cons_append, List.append_assoc, List.cons_append]
            exact feed_key spelledKey awaits _
        _ = (afterEntry ((key, node) :: before) frames).feed
              (',' :: (more ++ ('\x7d' :: rest))) :=
            feed_spelled spelledValue (awaitsValue_value _) (endsNumber_mark (by simp) _)
        _ = (nextEntry ((key, node) :: before) frames).feed (more ++ ('\x7d' :: rest)) :=
            feed_token rfl rfl _
        _ = (put (.object (((key, node) :: before).reverse ++ others) .closed) frames).feed
              rest :=
            feed_entries spelledRest (awaitsEntry_nextEntry _ frames) rest
        _ = _ := by rw [List.reverse_cons, List.append_assoc, List.singleton_append]

end

end Builder

/-- The document of a text is the value that the text spells. -/
theorem Document.ofText_spelled
    {root : Node}
    {text : String}
    (spelled : Spells root text.toList) :
    Document.ofText text = ⟨root, false⟩ := by
  have read :
      (Builder.value []).feed (text.toList ++ []) = (Builder.complete root).feed [] :=
    Builder.feed_spelled spelled (Builder.awaitsValue_value []) nofun
  rw [List.append_nil] at read
  have noTokens : (Builder.complete root).feed [] = .complete root := by
    rw [Builder.feed, tokens_of_skipBlanks_nil rfl]
    rfl
  have fed : (tokens text.toList).foldl Builder.step (.value []) = .complete root :=
    read.trans noTokens
  rw [Document.ofText, fed]
  rfl

/-- Whatever is spelled somehow is the document of a text. -/
theorem Document.exists_ofText_spelled
    {root : Node}
    {characters : List Char}
    (spelled : Spells root characters) :
    ∃ text, ofText text = ⟨root, false⟩ := by
  refine ⟨String.ofList characters, ofText_spelled ?_⟩
  rwa [String.toList_ofList]

end FeatureFlags.Json
