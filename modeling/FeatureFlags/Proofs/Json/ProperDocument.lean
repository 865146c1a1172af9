import FeatureFlags.Json.Reading

namespace FeatureFlags.Json

/-!
# Proper documents

A number of a document has a tree as its value, and its type leaves open which one. What is
made of a text has nothing but numbers there: neither a token nor what the tokens are
built into ever holds a list or an entry where a number was written.
-/

/-! ## Values -/

/-- Whether a tree is a number. -/
def Tree.IsNumber : Tree → Prop
  | .integer _ | .float _ => True
  | _ => False

namespace Node

mutual

/-- Whether all numbers of a node are numbers, as far as they have a value. -/
def IsProper : Node → Prop
  | .number value => ∀ tree, value = .ok tree → tree.IsNumber
  | .array items _ => ItemsAreProper items
  | .object entries _ => EntriesAreProper entries
  | _ => True

def ItemsAreProper : List Node → Prop
  | [] => True
  | node :: rest => IsProper node ∧ ItemsAreProper rest

def EntriesAreProper : List (Except Fault String × Node) → Prop
  | [] => True
  | (_, node) :: rest => IsProper node ∧ EntriesAreProper rest

end

theorem isProper_array
    {items : List Node}
    {ending : ArrayEnd} :
    (array items ending).IsProper ↔ ∀ item ∈ items, item.IsProper := by
  rw [IsProper]
  induction items with
  | nil =>
      simp [ItemsAreProper]
  | cons item rest inductionHypothesis =>
      rw [ItemsAreProper, inductionHypothesis, List.forall_mem_cons]

theorem isProper_object
    {entries : List (Except Fault String × Node)}
    {ending : ObjectEnd} :
    (object entries ending).IsProper ↔ ∀ entry ∈ entries, entry.2.IsProper := by
  rw [IsProper]
  induction entries with
  | nil =>
      simp [EntriesAreProper]
  | cons entry rest inductionHypothesis =>
      rw [EntriesAreProper, inductionHypothesis, List.forall_mem_cons]

theorem isProper_array_reverse
    {before : List Node}
    (proper : ∀ item ∈ before, item.IsProper)
    (ending : ArrayEnd) :
    (array before.reverse ending).IsProper :=
  isProper_array.mpr fun item member => proper item (List.mem_reverse.mp member)

theorem isProper_object_reverse
    {before : List (Except Fault String × Node)}
    (proper : ∀ entry ∈ before, entry.2.IsProper)
    (ending : ObjectEnd) :
    (object before.reverse ending).IsProper :=
  isProper_object.mpr fun entry member => proper entry (List.mem_reverse.mp member)

mutual

/-- A whole tree is proper. -/
theorem isProper_ofTree : (tree : Tree) → (ofTree tree).IsProper
  | .null | .bool _ | .text _ =>
      trivial
  | .integer _ | .float _ => by
      rintro _ ⟨⟩
      trivial
  | .array items =>
      itemsAreProper_ofTrees items
  | .object entries =>
      entriesAreProper_ofEntries entries

theorem itemsAreProper_ofTrees : (items : List Tree) → ItemsAreProper (ofTrees items)
  | [] =>
      trivial
  | item :: rest =>
      ⟨isProper_ofTree item, itemsAreProper_ofTrees rest⟩

theorem entriesAreProper_ofEntries :
    (entries : List (String × Tree)) → EntriesAreProper (ofEntries entries)
  | [] =>
      trivial
  | (_, value) :: rest =>
      ⟨isProper_ofTree value, entriesAreProper_ofEntries rest⟩

end

end Node

/-! ## Tokens -/

/-- Whether a token is a number where it is read as one. -/
def Token.IsProper : Token → Prop
  | .number value => ∀ tree, value = .ok tree → tree.IsNumber
  | _ => True

/-- The value of a numeral is a number. -/
theorem Numeral.isNumber_value
    {numeral : Numeral}
    {tree : Tree}
    (hasValue : numeral.value = .ok tree) :
    tree.IsNumber := by
  unfold value at hasValue
  dsimp only at hasValue
  split at hasValue
  · split at hasValue
    · cases hasValue
      trivial
    · split at hasValue <;> cases hasValue <;> trivial
  · cases float : numeral.floatValue with
    | error fault =>
        simp [float, Except.map] at hasValue
    | ok number =>
        simp only [float, Except.map, Except.ok.injEq] at hasValue
        subst hasValue
        trivial

theorem isProper_scanWord
    {token : Token}
    (proper : token.IsProper)
    (letters text : List Char) :
    (scanWord token letters text).1.IsProper := by
  induction letters generalizing text with
  | nil =>
      simpa [scanWord] using proper
  | cons expected letters inductionHypothesis =>
      cases text with
      | nil =>
          trivial
      | cons c rest =>
          rw [scanWord]
          split
          · exact inductionHypothesis rest
          · trivial

theorem isProper_scanText (body : List Char) : (scanText body).1.IsProper := by
  unfold scanText
  dsimp only
  split <;> trivial

theorem isProper_scanNumber (text : List Char) : (scanNumber text).1.IsProper := by
  unfold scanNumber
  split
  · exact fun _ => Numeral.isNumber_value
  · trivial

theorem isProper_scanToken
    (first : Char)
    (rest : List Char) :
    (scanToken first rest).1.IsProper := by
  rw [scanToken]
  cases punctuation : punctuation? first with
  | some token =>
      unfold punctuation? at punctuation
      split at punctuation <;> cases punctuation <;> trivial
  | none =>
      cases word : wordOf? first with
      | some tokenAndLetters =>
          refine isProper_scanWord ?_ _ _
          unfold wordOf? at word
          split at word <;> cases word <;> trivial
      | none =>
          dsimp only
          split
          · exact isProper_scanText rest
          · split
            · exact isProper_scanNumber _
            · trivial

/-- All tokens of a text are proper. -/
theorem isProper_of_mem_tokens
    (text : List Char) :
    ∀ token ∈ tokens text, token.IsProper := by
  fun_induction tokens text with
  | case1 =>
      exact fun _ member => nomatch member
  | case2 text first rest skipped inductionHypothesis =>
      exact List.forall_mem_cons.mpr ⟨isProper_scanToken first rest, inductionHypothesis⟩

/-! ## Building -/

/-- Whether everything that a container already holds is proper. -/
def Frame.IsProper : Frame → Prop
  | .array before => ∀ item ∈ before, item.IsProper
  | .object before _ => ∀ entry ∈ before, entry.2.IsProper

/-- Whether everything that has been built is proper. -/
def Builder.IsProper : Builder → Prop
  | .value frames | .firstItem frames | .firstEntry frames =>
      ∀ frame ∈ frames, frame.IsProper
  | .afterItem before frames | .nextItem before frames =>
      (∀ item ∈ before, item.IsProper) ∧ ∀ frame ∈ frames, frame.IsProper
  | .colon before _ frames | .afterEntry before frames | .nextEntry before frames =>
      (∀ entry ∈ before, entry.2.IsProper) ∧ ∀ frame ∈ frames, frame.IsProper
  | .complete root | .stopped root _ => root.IsProper

theorem Frame.isProper_close
    {frame : Frame}
    (proper : frame.IsProper)
    {last : Node}
    (lastProper : last.IsProper) :
    (frame.close last).IsProper := by
  cases frame with
  | array before =>
      exact Node.isProper_array_reverse (List.forall_mem_cons.mpr ⟨lastProper, proper⟩) .closed
  | object before key =>
      exact Node.isProper_object_reverse (List.forall_mem_cons.mpr ⟨lastProper, proper⟩) .closed

namespace Builder

variable
  {frames : List Frame}
  {node : Node}

theorem isProper_put
    (framesProper : ∀ frame ∈ frames, frame.IsProper)
    (proper : node.IsProper) :
    (put node frames).IsProper := by
  cases frames with
  | nil =>
      exact proper
  | cons frame frames =>
      obtain ⟨frameProper, restProper⟩ := List.forall_mem_cons.mp framesProper
      cases frame with
      | array before =>
          exact ⟨List.forall_mem_cons.mpr ⟨proper, frameProper⟩, restProper⟩
      | object before key =>
          exact ⟨List.forall_mem_cons.mpr ⟨proper, frameProper⟩, restProper⟩

theorem isProper_stop
    (framesProper : ∀ frame ∈ frames, frame.IsProper)
    (proper : node.IsProper) :
    (stop node frames).IsProper := by
  unfold stop IsProper
  dsimp only
  induction frames generalizing node with
  | nil =>
      exact proper
  | cons frame frames inductionHypothesis =>
      obtain ⟨frameProper, restProper⟩ := List.forall_mem_cons.mp framesProper
      exact inductionHypothesis restProper (frame.isProper_close frameProper proper)

theorem isProper_beginValue
    (framesProper : ∀ frame ∈ frames, frame.IsProper)
    {token : Token}
    (proper : token.IsProper) :
    (beginValue frames token).IsProper := by
  cases token with
  | openArray | openObject =>
      exact framesProper
  | number value =>
      exact isProper_put framesProper proper
  | null | bool | text =>
      exact isProper_put framesProper trivial
  | brokenScalar | brokenText | closeArray | closeObject | colon | comma | stray =>
      exact isProper_stop framesProper trivial

theorem isProper_beginEntry
    {before : List (Except Fault String × Node)}
    (beforeProper : ∀ entry ∈ before, entry.2.IsProper)
    (framesProper : ∀ frame ∈ frames, frame.IsProper)
    (token : Token) :
    (beginEntry before frames token).IsProper := by
  cases token with
  | text key =>
      exact ⟨beforeProper, framesProper⟩
  | openArray | closeArray | openObject | closeObject | colon | comma | null | bool | number
  | brokenScalar | brokenText | stray =>
      exact isProper_stop framesProper (Node.isProper_object_reverse beforeProper _)

/-- A token more keeps everything proper. -/
theorem isProper_step
    {builder : Builder}
    (proper : builder.IsProper)
    {token : Token}
    (tokenProper : token.IsProper) :
    (builder.step token).IsProper := by
  cases builder with
  | value frames =>
      exact isProper_beginValue proper tokenProper
  | firstItem frames =>
      have opened : ∀ frame ∈ Frame.array [] :: frames, frame.IsProper :=
        List.forall_mem_cons.mpr ⟨List.forall_mem_nil _, proper⟩
      have begun := isProper_beginValue opened tokenProper
      cases token <;> first | exact begun | exact isProper_put proper trivial
  | afterItem before frames =>
      obtain ⟨beforeProper, framesProper⟩ := proper
      have array := Node.isProper_array_reverse beforeProper
      cases token <;>
        first
        | exact ⟨beforeProper, framesProper⟩
        | exact isProper_put framesProper (array _)
        | exact isProper_stop framesProper (array _)
  | nextItem before frames =>
      obtain ⟨beforeProper, framesProper⟩ := proper
      have array := Node.isProper_array_reverse beforeProper
      have opened : ∀ frame ∈ Frame.array before :: frames, frame.IsProper :=
        List.forall_mem_cons.mpr ⟨beforeProper, framesProper⟩
      have begun := isProper_beginValue opened tokenProper
      cases token <;> first | exact begun | exact isProper_stop framesProper (array _)
  | firstEntry frames =>
      have begun := isProper_beginEntry (List.forall_mem_nil _) proper token
      cases token <;> first | exact begun | exact isProper_put proper trivial
  | colon before key frames =>
      obtain ⟨beforeProper, framesProper⟩ := proper
      have opened : ∀ frame ∈ Frame.object before key :: frames, frame.IsProper :=
        List.forall_mem_cons.mpr ⟨beforeProper, framesProper⟩
      cases token <;> first | exact opened | exact isProper_stop opened trivial
  | afterEntry before frames =>
      obtain ⟨beforeProper, framesProper⟩ := proper
      have object := Node.isProper_object_reverse beforeProper
      cases token <;>
        first
        | exact ⟨beforeProper, framesProper⟩
        | exact isProper_put framesProper (object _)
        | exact isProper_stop framesProper (object _)
  | nextEntry before frames =>
      obtain ⟨beforeProper, framesProper⟩ := proper
      have object := Node.isProper_object_reverse beforeProper
      have begun := isProper_beginEntry beforeProper framesProper token
      cases token <;> first | exact begun | exact isProper_stop framesProper (object _)
  | complete root | stopped root surplus =>
      exact proper

/-- Neither does the end of the text change that. -/
theorem isProper_document
    {builder : Builder}
    (proper : builder.IsProper) :
    builder.document.root.IsProper := by
  have atEnd : builder.atEnd.IsProper := by
    cases builder with
    | value frames =>
        exact isProper_stop proper trivial
    | firstItem frames | firstEntry frames =>
        exact isProper_stop proper trivial
    | afterItem before frames | nextItem before frames =>
        exact isProper_stop proper.2 (Node.isProper_array_reverse proper.1 _)
    | colon before key frames =>
        exact isProper_stop (List.forall_mem_cons.mpr proper) trivial
    | afterEntry before frames | nextEntry before frames =>
        exact isProper_stop proper.2 (Node.isProper_object_reverse proper.1 _)
    | complete root | stopped root surplus =>
        exact proper
  rw [document]
  generalize builder.atEnd = ended at atEnd
  cases ended with
  | complete root | stopped root surplus =>
      exact atEnd
  | value | firstItem | afterItem | nextItem | firstEntry | colon | afterEntry | nextEntry =>
      trivial

end Builder

/-- The document of every text is proper. -/
theorem Document.isProper_ofText (text : String) : (ofText text).root.IsProper := by
  refine Builder.isProper_document ?_
  have tokensProper := isProper_of_mem_tokens text.toList
  have start : (Builder.value []).IsProper := List.forall_mem_nil _
  generalize tokens text.toList = tokens at tokensProper
  generalize Builder.value [] = builder at start
  induction tokens generalizing builder with
  | nil =>
      exact start
  | cons token rest inductionHypothesis =>
      obtain ⟨tokenProper, restProper⟩ := List.forall_mem_cons.mp tokensProper
      exact inductionHypothesis restProper _ (Builder.isProper_step start tokenProper)

end FeatureFlags.Json
