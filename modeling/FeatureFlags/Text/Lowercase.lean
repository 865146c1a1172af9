import FeatureFlags.Text.LetterCase

namespace FeatureFlags.Text

/-!
# Lower case

Full Unicode lower-casing of text. Every character is mapped on its own except
the capital sigma, which becomes a final sigma where it ends a word: a cased
letter stands before it and none after it, characters that are ignorable for
case being skipped on both sides.
-/

/-- The lower case of a character regarded on its own. -/
def lowerChar (c : Char) : List Char :=
  if c = 'İ' then
    ['i', Char.ofNat 0x307]
  else
    match lowerCaseRuns.find? fun run => run.covers c.toNat with
    | some run => [Char.ofNat (run.image c.toNat)]
    | none => [c]

/-- Whether the first character that is not ignorable for case is a cased one. -/
def startsCased (text : List Char) : Bool :=
  match text.dropWhile fun c => caseIgnorableRanges.has c.toNat with
  | [] => false
  | c :: _ => casedRanges.has c.toNat

/-- Whether a letter between the reversed text `before` and the text `after` ends a word. -/
def endsWord
    (before after : List Char) :
    Bool :=
  startsCased before && !startsCased after

/-- The lower case of a character in its surroundings, `before` being reversed. -/
def lowerBetween
    (before : List Char)
    (c : Char)
    (after : List Char) :
    List Char :=
  if c = 'Σ' then
    if endsWord before after then ['ς'] else ['σ']
  else
    lowerChar c

/-- Lower-case a text that follows the reversed text `before`. -/
def lowerAfter
    (before : List Char) :
    List Char → List Char
  | [] => []
  | c :: rest => lowerBetween before c rest ++ lowerAfter (c :: before) rest

/-- The lower case of a text. -/
def lowercase (text : List Char) : List Char :=
  lowerAfter [] text

end FeatureFlags.Text
