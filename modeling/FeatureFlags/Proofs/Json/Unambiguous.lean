import FeatureFlags.Proofs.Json.Numerals

namespace FeatureFlags.Json

/-!
# Compact texts are unambiguous

Two trees are the same if their compact texts are. The first character of a text tells what
kind of tree it is, every part of a text ends where no character can continue it, and what
a part is written as tells which one it is. Only numbers that have no numeral are written
as something else, so they are left out here.
-/

open FeatureFlags.Number
  (decimalDigits documentStyle naturalOfDigits naturalOfDigits_decimalDigits)

/-! ## Texts that are told apart -/

/--
Whether two things are told apart by what they are written as, in front of anything that
may follow a value.
-/
def ToldApart
    (write : α → List Char)
    (left right : α) :
    Prop :=
  ∀ {leftRest rightRest : List Char},
    EndsNumber leftRest →
    EndsNumber rightRest →
    write left ++ leftRest = write right ++ rightRest →
    left = right ∧ leftRest = rightRest

/-- No number is continued by a mark. -/
theorem endsNumber_cons
    {mark : Char}
    (isMark : mark.isDigit = false ∧ mark ≠ '.' ∧ mark ≠ 'e' ∧ mark ≠ 'E')
    (rest : List Char) :
    EndsNumber (mark :: rest) := by
  intro c first
  obtain rfl := Option.some.inj first
  exact isMark

theorem joinParts_cons
    (part : List Char)
    (rest : List (List Char)) :
    joinParts (part :: rest) =
      part ++ if rest = [] then [] else ',' :: joinParts rest := by
  cases rest <;> simp [joinParts]

/-- Parts that are told apart stay so when commas are put between them and a bracket behind. -/
theorem joinParts_told_apart
    {write : α → List Char}
    {closing : Char}
    (isMark : closing.isDigit = false ∧ closing ≠ '.' ∧ closing ≠ 'e' ∧ closing ≠ 'E')
    (notComma : closing ≠ ',')
    {left right : List α}
    {leftRest rightRest : List Char}
    (leftBegins : ∀ item ∈ left, ∃ first rest, write item = first :: rest ∧ first ≠ closing)
    (rightBegins : ∀ item ∈ right, ∃ first rest, write item = first :: rest ∧ first ≠ closing)
    (apart : ∀ item ∈ left, ∀ other ∈ right, ToldApart write item other)
    (same :
      joinParts (left.map write) ++ closing :: leftRest =
        joinParts (right.map write) ++ closing :: rightRest) :
    left = right ∧ leftRest = rightRest := by
  induction left generalizing right with
  | nil =>
      cases right with
      | nil =>
          exact ⟨rfl, (List.cons.inj same).2⟩
      | cons other others =>
          obtain ⟨first, rest, written, notClosing⟩ := rightBegins other List.mem_cons_self
          rw [List.map_cons, joinParts_cons, written] at same
          exact absurd (List.cons.inj same).1.symm notClosing
  | cons item items inductionHypothesis =>
      cases right with
      | nil =>
          obtain ⟨first, rest, written, notClosing⟩ := leftBegins item List.mem_cons_self
          rw [List.map_cons, joinParts_cons, written] at same
          exact absurd (List.cons.inj same).1 notClosing
      | cons other others =>
          have ends (parts : List (List Char)) (rest : List Char) :
              EndsNumber ((if parts = [] then [] else ',' :: joinParts parts) ++ closing :: rest) := by
            split
            · exact endsNumber_cons isMark rest
            · exact endsNumber_cons (by decide) _
          rw [List.map_cons, List.map_cons, joinParts_cons, joinParts_cons, List.append_assoc,
            List.append_assoc] at same
          obtain ⟨rfl, restSame⟩ :=
            apart item List.mem_cons_self other List.mem_cons_self (ends _ _) (ends _ _) same
          cases items with
          | nil =>
              cases others with
              | nil =>
                  exact ⟨rfl, (List.cons.inj restSame).2⟩
              | cons =>
                  exact absurd (List.cons.inj restSame).1 notComma
          | cons next items =>
              cases others with
              | nil =>
                  exact absurd (List.cons.inj restSame).1.symm notComma
              | cons otherNext others =>
                  obtain ⟨sameItems, sameRest⟩ :=
                    inductionHypothesis
                      (fun part member => leftBegins part (List.mem_cons_of_mem _ member))
                      (fun part member => rightBegins part (List.mem_cons_of_mem _ member))
                      (fun part member otherPart otherMember =>
                        apart part (List.mem_cons_of_mem _ member) otherPart
                          (List.mem_cons_of_mem _ otherMember))
                      (List.cons.inj restSame).2
                  exact ⟨by rw [sameItems], sameRest⟩

/-! ## Scalars -/

/-- A quoted text ends at its closing quote, whatever follows. -/
theorem quote_told_apart
    {left right : String}
    {leftRest rightRest : List Char}
    (same : quote left ++ leftRest = quote right ++ rightRest) :
    left = right ∧ leftRest = rightRest := by
  obtain ⟨leftInner, leftQuoted, leftScanned⟩ := (spellsQuoted_quote left).exists_cons
  obtain ⟨rightInner, rightQuoted, rightScanned⟩ := (spellsQuoted_quote right).exists_cons
  rw [leftQuoted, rightQuoted] at same
  have inner : leftInner ++ leftRest = rightInner ++ rightRest := (List.cons.inj same).2
  have scanned := leftScanned leftRest
  rw [inner, rightScanned rightRest] at scanned
  cases scanned
  exact ⟨rfl, rfl⟩

/-- A numeral ends where nothing continues it. -/
theorem numeral_told_apart
    {left right : Numeral}
    {leftText rightText leftRest rightRest : List Char}
    (leftSpelled : SpellsNumeral left leftText)
    (rightSpelled : SpellsNumeral right rightText)
    (leftEnds : EndsNumber leftRest)
    (rightEnds : EndsNumber rightRest)
    (same : leftText ++ leftRest = rightText ++ rightRest) :
    left = right ∧ leftText = rightText ∧ leftRest = rightRest := by
  have scanned := scanNumeral_append leftSpelled leftEnds
  rw [same, scanNumeral_append rightSpelled rightEnds] at scanned
  cases scanned
  exact ⟨rfl, List.append_cancel_right same, rfl⟩

theorem Numeral.ofInt_injective
    {left right : Int}
    (same : ofInt left = ofInt right) :
    left = right := by
  have sameSign : decide (left < 0) = decide (right < 0) := congrArg Numeral.negative same
  have sameDigits : decimalDigits left.natAbs = decimalDigits right.natAbs :=
    congrArg Numeral.whole same
  have sameMagnitude := congrArg naturalOfDigits sameDigits
  rw [naturalOfDigits_decimalDigits, naturalOfDigits_decimalDigits] at sameMagnitude
  rw [decide_eq_decide] at sameSign
  omega

/-- A finite number is written as a numeral that is not one of an integer. -/
theorem exists_spellsNumeral_writeFloat
    {number : Number.Binary64}
    (finite : number.isFinite = true) :
    ∃ numeral, SpellsNumeral numeral (writeFloat number) ∧ numeral.isWhole = false := by
  have marks : MarksByZero documentStyle := .inr rfl
  obtain ⟨numeral, spelled, -, notWhole⟩ := exists_spellsNumeral_write finite marks
  rw [writeFloat, if_pos finite]
  exact ⟨numeral, spelled, notWhole nofun⟩

theorem writeFloat_injective_of_isFinite
    {left right : Number.Binary64}
    (leftFinite : left.isFinite = true)
    (rightFinite : right.isFinite = true)
    (same : writeFloat left = writeFloat right) :
    left = right := by
  rw [writeFloat, writeFloat, if_pos leftFinite, if_pos rightFinite] at same
  exact write_injective_of_isFinite leftFinite rightFinite (.inr rfl) (String.toList_inj.mp same)

/-! ## Trees -/

/-- What the first character of a tree's text tells of the tree. -/
inductive Kind where
  | null
  | bool (value : Bool)
  | number
  | text
  | array
  | object

/-- The kind that a character tells of, if a text may begin with it. -/
def Kind.ofFirst? : Char → Option Kind
  | 'n' => some .null
  | 't' => some (.bool true)
  | 'f' => some (.bool false)
  | '"' => some .text
  | '[' => some .array
  | '\x7b' => some .object
  | c => if c = '-' || c.isDigit then some .number else none

theorem Kind.ofFirst?_of_numeral
    {first : Char}
    (begins : first = '-' ∨ first.isDigit = true) :
    ofFirst? first = some .number := by
  unfold ofFirst?
  split
  case h_7 =>
    rcases begins with rfl | isDigit
    · rfl
    · simp [isDigit]
  all_goals
    rcases begins with begins | begins <;> cases begins

namespace Tree

/-- The kind of a tree. -/
def kind : Tree → Kind
  | .null => .null
  | .bool value => .bool value
  | .integer _ => .number
  | .float _ => .number
  | .text _ => .text
  | .array _ => .array
  | .object _ => .object

mutual

/-- Whether all numbers of a tree have numerals. -/
def IsFinite : Tree → Prop
  | .float value => value.isFinite = true
  | .array items => ItemsAreFinite items
  | .object entries => EntriesAreFinite entries
  | _ => True

/-- Whether all numbers of some items have numerals. -/
def ItemsAreFinite : List Tree → Prop
  | [] => True
  | item :: rest => IsFinite item ∧ ItemsAreFinite rest

/-- Whether all numbers of some entries have numerals. -/
def EntriesAreFinite : List (String × Tree) → Prop
  | [] => True
  | (_, value) :: rest => IsFinite value ∧ EntriesAreFinite rest

end

theorem itemsAreFinite_iff {items : List Tree} :
    ItemsAreFinite items ↔ ∀ item ∈ items, item.IsFinite := by
  induction items with
  | nil =>
      simp [ItemsAreFinite]
  | cons item rest inductionHypothesis =>
      simp [ItemsAreFinite, inductionHypothesis]

theorem entriesAreFinite_iff {entries : List (String × Tree)} :
    EntriesAreFinite entries ↔ ∀ entry ∈ entries, entry.2.IsFinite := by
  induction entries with
  | nil =>
      simp [EntriesAreFinite]
  | cons entry rest inductionHypothesis =>
      simp [EntriesAreFinite, inductionHypothesis]

/-- An entry as it stands in the text of an object. -/
def writeEntry (entry : String × Tree) : List Char :=
  quote entry.1 ++ ':' :: write entry.2

theorem writeItems_eq_map (items : List Tree) : writeItems items = items.map write := by
  induction items with
  | nil =>
      rfl
  | cons item rest inductionHypothesis =>
      rw [writeItems, inductionHypothesis, List.map_cons]

theorem writeEntries_eq_map (entries : List (String × Tree)) :
    writeEntries entries = entries.map writeEntry := by
  induction entries with
  | nil =>
      rfl
  | cons entry rest inductionHypothesis =>
      rw [writeEntries, inductionHypothesis, List.map_cons]
      rfl

/-- The text of a tree begins with a character that tells its kind. -/
theorem exists_write_eq_cons
    {tree : Tree}
    (finite : tree.IsFinite) :
    ∃ first rest, tree.write = first :: rest ∧ Kind.ofFirst? first = some tree.kind := by
  have ofNumeral
      {numeral : Numeral}
      {text : List Char}
      (spelled : SpellsNumeral numeral text) :
      ∃ first rest, text = first :: rest ∧ Kind.ofFirst? first = some .number := by
    obtain ⟨first, rest, rfl, begins⟩ := spelled.exists_cons
    exact ⟨first, rest, rfl, Kind.ofFirst?_of_numeral begins⟩
  match tree with
  | .null | .bool true | .bool false | .text _ | .array _ | .object _ =>
      exact ⟨_, _, rfl, rfl⟩
  | .integer value =>
      exact ofNumeral (spellsNumeral_repr value)
  | .float value =>
      obtain ⟨numeral, spelled, -⟩ := exists_spellsNumeral_writeFloat finite
      exact ofNumeral spelled

/-- Trees whose texts begin with the same character are of the same kind. -/
theorem kind_eq_of_write
    {left right : Tree}
    {leftRest rightRest : List Char}
    (leftFinite : left.IsFinite)
    (rightFinite : right.IsFinite)
    (same : left.write ++ leftRest = right.write ++ rightRest) :
    left.kind = right.kind := by
  obtain ⟨first, _, leftWritten, leftKind⟩ := exists_write_eq_cons leftFinite
  obtain ⟨other, _, rightWritten, rightKind⟩ := exists_write_eq_cons rightFinite
  rw [leftWritten, rightWritten] at same
  obtain rfl : first = other := (List.cons.inj same).1
  exact Option.some.inj (leftKind.symm.trans rightKind)

/-- Entries are told apart if their values are. -/
theorem writeEntry_told_apart
    {left right : String × Tree}
    (apart : ToldApart write left.2 right.2) :
    ToldApart writeEntry left right := by
  intro leftRest rightRest leftEnds rightEnds same
  rw [writeEntry, writeEntry, List.append_assoc, List.append_assoc] at same
  obtain ⟨sameKey, sameRest⟩ := quote_told_apart same
  obtain ⟨sameValue, sameRest⟩ := apart leftEnds rightEnds (List.cons.inj sameRest).2
  exact ⟨Prod.ext sameKey sameValue, sameRest⟩

/-- Integers and other numbers are told apart. -/
theorem write_told_apart_of_number
    {left right : Tree}
    (leftFinite : left.IsFinite)
    (rightFinite : right.IsFinite)
    (leftNumber : left.kind = .number)
    (rightNumber : right.kind = .number) :
    ToldApart write left right := by
  intro leftRest rightRest leftEnds rightEnds same
  match left, right with
  | .integer value, .integer other =>
      obtain ⟨sameNumeral, -, sameRest⟩ :=
        numeral_told_apart (spellsNumeral_repr value) (spellsNumeral_repr other) leftEnds rightEnds
          same
      exact ⟨congrArg integer (Numeral.ofInt_injective sameNumeral), sameRest⟩
  | .integer value, .float other =>
      obtain ⟨numeral, spelled, notWhole⟩ := exists_spellsNumeral_writeFloat rightFinite
      obtain ⟨rfl, -, -⟩ :=
        numeral_told_apart (spellsNumeral_repr value) spelled leftEnds rightEnds same
      cases notWhole
  | .float value, .integer other =>
      obtain ⟨numeral, spelled, notWhole⟩ := exists_spellsNumeral_writeFloat leftFinite
      obtain ⟨rfl, -, -⟩ :=
        numeral_told_apart spelled (spellsNumeral_repr other) leftEnds rightEnds same
      cases notWhole
  | .float value, .float other =>
      obtain ⟨_, spelled, -⟩ := exists_spellsNumeral_writeFloat leftFinite
      obtain ⟨_, otherSpelled, -⟩ := exists_spellsNumeral_writeFloat rightFinite
      obtain ⟨-, sameText, sameRest⟩ :=
        numeral_told_apart spelled otherSpelled leftEnds rightEnds same
      exact ⟨congrArg float (writeFloat_injective_of_isFinite leftFinite rightFinite sameText),
        sameRest⟩

/-- No tree is written as a text that begins with a closing bracket. -/
theorem exists_write_ne_closing
    {tree : Tree}
    (finite : tree.IsFinite) :
    ∃ first rest, tree.write = first :: rest ∧ first ≠ ']' := by
  obtain ⟨first, rest, written, isKind⟩ := exists_write_eq_cons finite
  refine ⟨first, rest, written, ?_⟩
  rintro rfl
  cases isKind

theorem sizeOf_value_lt
    {entry : String × Tree}
    {entries : List (String × Tree)}
    (member : entry ∈ entries) :
    sizeOf entry.2 < sizeOf entries := by
  have entrySmaller := List.sizeOf_lt_of_mem member
  have valueSmaller : sizeOf entry.2 < sizeOf entry := by
    cases entry
    simp
  omega

/-- Trees are told apart by their compact texts. -/
theorem write_told_apart
    (left right : Tree)
    (leftFinite : left.IsFinite)
    (rightFinite : right.IsFinite) :
    ToldApart write left right := by
  intro leftRest rightRest leftEnds rightEnds same
  have sameKind := kind_eq_of_write leftFinite rightFinite same
  match left with
  | .null =>
      cases right with
      | null => exact ⟨rfl, List.append_cancel_left same⟩
      | _ => cases sameKind
  | .bool value =>
      cases right with
      | bool other =>
          cases sameKind
          exact ⟨rfl, List.append_cancel_left same⟩
      | _ => cases sameKind
  | .integer _ | .float _ =>
      exact write_told_apart_of_number leftFinite rightFinite rfl sameKind.symm leftEnds rightEnds
        same
  | .text value =>
      cases right with
      | text other =>
          obtain ⟨rfl, sameRest⟩ := quote_told_apart same
          exact ⟨rfl, sameRest⟩
      | _ => cases sameKind
  | .array items =>
      cases right with
      | array others =>
          have itemsFinite := itemsAreFinite_iff.mp leftFinite
          have othersFinite := itemsAreFinite_iff.mp rightFinite
          simp only [write, writeItems_eq_map, List.cons_append, List.append_assoc,
            List.nil_append] at same
          obtain ⟨rfl, sameRest⟩ :=
            joinParts_told_apart (by decide) (by decide)
              (fun item member => exists_write_ne_closing (itemsFinite item member))
              (fun other member => exists_write_ne_closing (othersFinite other member))
              (fun item member other otherMember =>
                write_told_apart item other (itemsFinite item member)
                  (othersFinite other otherMember))
              (List.cons.inj same).2
          exact ⟨rfl, sameRest⟩
      | _ => cases sameKind
  | .object entries =>
      cases right with
      | object others =>
          have entriesFinite := entriesAreFinite_iff.mp leftFinite
          have othersFinite := entriesAreFinite_iff.mp rightFinite
          simp only [write, writeEntries_eq_map, List.cons_append, List.append_assoc,
            List.nil_append] at same
          obtain ⟨rfl, sameRest⟩ :=
            joinParts_told_apart (by decide) (by decide)
              (fun entry _ => ⟨_, _, rfl, by decide⟩)
              (fun other _ => ⟨_, _, rfl, by decide⟩)
              (fun entry member other otherMember =>
                have smaller := sizeOf_value_lt member
                writeEntry_told_apart
                  (write_told_apart entry.2 other.2 (entriesFinite entry member)
                    (othersFinite other otherMember)))
              (List.cons.inj same).2
          exact ⟨rfl, sameRest⟩
      | _ => cases sameKind
termination_by sizeOf left

/-- Trees are the same if their compact texts are. -/
theorem toText_injective_of_isFinite
    {left right : Tree}
    (leftFinite : left.IsFinite)
    (rightFinite : right.IsFinite)
    (same : left.toText = right.toText) :
    left = right := by
  have sameWrite : left.write ++ [] = right.write ++ [] :=
    congrArg (· ++ []) (String.ofList_injective same)
  exact (@write_told_apart left right leftFinite rightFinite [] [] nofun nofun sameWrite).1

end Tree

end FeatureFlags.Json
