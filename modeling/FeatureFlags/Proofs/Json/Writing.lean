import FeatureFlags.Json.Writing
import FeatureFlags.Proofs.Json.Acceptance
import FeatureFlags.Proofs.Json.SpelledDocument
import FeatureFlags.Proofs.Number.Digits
import Mathlib.Tactic.SplitIfs

namespace FeatureFlags.Json

/-!
# Compact texts are spellings

The compact text of a tree is one of the texts that spell it, whatever its keys and texts
are, as long as its numbers are integers that fit a word. So it is read as that tree.
-/

open FeatureFlags.Number (decimalDigits decimalDigits_ne_nil isDigit_of_mem_decimalDigits
  eq_zero_of_head?_decimalDigits naturalOfDigits_decimalDigits)

/-! ## Quoted texts -/

/-- A control character is escaped as the unit that it is. -/
theorem unitOfDigits?_hexDigit
    {n : Nat}
    (isControl : n < 0x20) :
    unitOfDigits? '0' '0' (hexDigit (n / 16)) (hexDigit n) = some n := by
  have all : ∀ n < 0x20, unitOfDigits? '0' '0' (hexDigit (n / 16)) (hexDigit n) = some n := by
    decide
  exact all n isControl

/-- An escaped character spells itself in front of whatever follows. -/
theorem spellsText_escapeChar
    (c : Char)
    {content body : List Char}
    (spelled : SpellsText content body) :
    SpellsText (c :: content) (escapeChar c ++ body) := by
  unfold escapeChar
  split_ifs with quote backslash backspace formFeed newline return_ tab control
  · subst quote
    exact .escaped rfl spelled
  · subst backslash
    exact .escaped rfl spelled
  · subst backspace
    exact .escaped rfl spelled
  · subst formFeed
    exact .escaped rfl spelled
  · subst newline
    exact .escaped rfl spelled
  · subst return_
    exact .escaped rfl spelled
  · subst tab
    exact .escaped rfl spelled
  · have notLeading : isLeadingSurrogate c.toNat = false := by
      simp only [isLeadingSurrogate, Bool.and_eq_false_iff, decide_eq_false_iff_not]
      omega
    have notTrailing : isTrailingSurrogate c.toNat = false := by
      simp only [isTrailingSurrogate, Bool.and_eq_false_iff, decide_eq_false_iff_not]
      omega
    have unit := SpellsText.unit (unitOfDigits?_hexDigit control) notLeading notTrailing spelled
    rwa [Char.ofNat_toNat] at unit
  · exact .character quote backslash (Nat.le_of_not_lt control) spelled

theorem spellsText_escape (content : List Char) :
    SpellsText content (content.flatMap escapeChar) := by
  induction content with
  | nil =>
      exact .empty
  | cons c rest inductionHypothesis =>
      rw [List.flatMap_cons]
      exact spellsText_escapeChar c inductionHypothesis

/-- Every text is spelled by its quoted form. -/
theorem spellsQuoted_quote (text : String) :
    SpellsQuoted (.ok text) (quote text) := by
  have quoted := SpellsQuoted.paired (spellsText_escape text.toList)
  rwa [String.ofList_toList] at quoted

/-! ## Integers -/

theorem isDigits_decimalDigits (n : Nat) : IsDigits (decimalDigits n) :=
  ⟨decimalDigits_ne_nil n, fun _ => isDigit_of_mem_decimalDigits⟩

/-- The numeral that an integer is written as. -/
def Numeral.ofInt (n : Int) : Numeral :=
  ⟨n < 0, decimalDigits n.natAbs, none, none⟩

theorem toList_repr (n : Int) :
    n.repr.toList = (if n < 0 then ['-'] else []) ++ decimalDigits n.natAbs := by
  rw [Int.repr_eq_if]
  by_cases negative : n < 0
  · have magnitude : (-n).toNat = n.natAbs := by omega
    simp [negative, Int.not_le.mpr negative, magnitude, Nat.repr_eq_ofList_toDigits, decimalDigits]
  · have magnitude : n.toNat = n.natAbs := by omega
    simp [negative, Int.not_lt.mp negative, magnitude, Nat.repr_eq_ofList_toDigits, decimalDigits]

theorem spellsNumeral_repr (n : Int) :
    SpellsNumeral (.ofInt n) n.repr.toList := by
  have noLeadingZero :
      (decimalDigits n.natAbs).head? = some '0' → decimalDigits n.natAbs = ['0'] := by
    intro begins
    rw [eq_zero_of_head?_decimalDigits begins]
    rfl
  have spelled :=
    @SpellsNumeral.parts (n < 0) _ _ _ _ _ (isDigits_decimalDigits n.natAbs) noLeadingZero .lacking
      .lacking
  rw [toList_repr]
  simpa [Numeral.ofInt] using spelled

/-- The numeral of an integer that fits a word has that integer as its value. -/
theorem Numeral.value_ofInt
    {n : Int}
    (fits : FitsSigned n) :
    (Numeral.ofInt n).value = .ok (.integer n) := by
  obtain ⟨low, high⟩ := fits
  simp only [lowestSigned, highestSigned] at low high
  obtain ⟨magnitude, isMagnitude⟩ : ∃ magnitude, n.natAbs = magnitude := ⟨_, rfl⟩
  have fitsUnsigned : magnitude ≤ highestUnsigned := by
    rw [highestUnsigned]
    omega
  by_cases negative : n < 0
  · have notZero : magnitude ≠ 0 := by omega
    have signed : -(magnitude : Int) = n := by omega
    simp [value, ofInt, isWhole, naturalOfDigits_decimalDigits, isMagnitude, fitsUnsigned, negative,
      signed, notZero, lowestSigned, low]
  · have unsigned : (magnitude : Int) = n := by omega
    simp [value, ofInt, isWhole, naturalOfDigits_decimalDigits, isMagnitude, fitsUnsigned, negative,
      unsigned]

/-! ## Trees -/

namespace Tree

mutual

/-- Whether all numbers of a tree are integers that fit a signed word. -/
def IsIntegral : Tree → Prop
  | .integer value => FitsSigned value
  | .float _ => False
  | .array items => ItemsAreIntegral items
  | .object entries => EntriesAreIntegral entries
  | _ => True

/-- Whether all numbers of some items are such integers. -/
def ItemsAreIntegral : List Tree → Prop
  | [] => True
  | item :: rest => IsIntegral item ∧ ItemsAreIntegral rest

/-- Whether all numbers of some entries are such integers. -/
def EntriesAreIntegral : List (String × Tree) → Prop
  | [] => True
  | (_, value) :: rest => IsIntegral value ∧ EntriesAreIntegral rest

end

mutual

/-- The compact text of a tree spells the tree. -/
theorem spellsBare_write
    (tree : Tree)
    (integral : tree.IsIntegral) :
    SpellsBare (Node.ofTree tree) tree.write := by
  match tree with
  | .null =>
      exact .null
  | .bool true =>
      exact .true
  | .bool false =>
      exact .false
  | .integer value =>
      have spelled := SpellsBare.number (spellsNumeral_repr value)
      rwa [Numeral.value_ofInt integral] at spelled
  | .float _ =>
      exact integral.elim
  | .text value =>
      exact .text (spellsQuoted_quote value)
  | .array items =>
      rcases spellsItems_write items integral with rfl | itemsSpelled
      · exact @SpellsBare.emptyArray [] (List.forall_mem_nil _)
      · exact .array itemsSpelled
  | .object entries =>
      rcases spellsEntries_write entries integral with rfl | entriesSpelled
      · exact @SpellsBare.emptyObject [] (List.forall_mem_nil _)
      · exact .object entriesSpelled

/-- The compact texts of items spell the items, with commas between them. -/
theorem spellsItems_write
    (items : List Tree)
    (integral : ItemsAreIntegral items) :
    items = [] ∨ SpellsItems (Node.ofTrees items) (joinParts (writeItems items)) := by
  match items with
  | [] =>
      exact .inl rfl
  | item :: rest =>
      have itemSpelled := Spells.of_bare (spellsBare_write item integral.1)
      rcases spellsItems_write rest integral.2 with rfl | restSpelled
      · exact .inr (.last itemSpelled)
      · cases rest with
        | nil =>
            exact .inr (.last itemSpelled)
        | cons next others =>
            exact .inr (.next itemSpelled restSpelled)

/-- The compact texts of entries spell the entries, with commas between them. -/
theorem spellsEntries_write
    (entries : List (String × Tree))
    (integral : EntriesAreIntegral entries) :
    entries = [] ∨ SpellsEntries (Node.ofEntries entries) (joinParts (writeEntries entries)) := by
  match entries with
  | [] =>
      exact .inl rfl
  | (key, value) :: rest =>
      have keySpelled := SpellsKey.of_quoted (spellsQuoted_quote key)
      have valueSpelled := Spells.of_bare (spellsBare_write value integral.1)
      rcases spellsEntries_write rest integral.2 with rfl | restSpelled
      · exact .inr (.last keySpelled valueSpelled)
      · cases rest with
        | nil =>
            exact .inr (.last keySpelled valueSpelled)
        | cons next others =>
            have written :
                joinParts (writeEntries ((key, value) :: next :: others)) =
                  quote key ++
                    ':' :: (value.write ++ ',' :: joinParts (writeEntries (next :: others))) := by
              simp [writeEntries, joinParts]
            rw [written]
            exact .inr (.next keySpelled valueSpelled restSpelled)

end

/-- The compact text of a tree is read as the tree. -/
theorem ofText_toText
    {tree : Tree}
    (integral : tree.IsIntegral)
    (shallow : (Node.ofTree tree).depth ≤ nestingLimit) :
    ofText tree.toText = .ok tree := by
  have spelled : Spells (Node.ofTree tree) tree.toText.toList := by
    rw [toText, String.toList_ofList]
    exact .of_bare (spellsBare_write tree integral)
  have read : (Node.ofTree tree).read (some nestingLimit) = .ok tree := by
    rw [Node.read_of_depth_le _ shallow, Node.read_ofTree]
  rw [ofText, Document.ofText_spelled spelled, Document.readWith, read]
  rfl

end Tree

end FeatureFlags.Json
