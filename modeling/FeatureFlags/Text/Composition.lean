import FeatureFlags.Text.CombiningClass
import FeatureFlags.Text.Composite

namespace FeatureFlags.Text

/-!
# Composed text

Texts that differ only in the order of marks which do not touch, or in whether a
character and its mark are written as one, have one composed form: characters are
taken apart, runs of marks are put into the order of their classes, and each mark
is joined to the last character of class zero before it if there is a character
for the two and no mark between them keeps it off. Korean syllables are joined
from their letters by arithmetic.
-/

/-! ## Taking apart -/

/-- Take a code point apart along a list of composites in which dependent ones come first. -/
def takeApart : List Composite → Nat → List Nat
  | [], code => [code]
  | entry :: rest, code =>
      if code = entry.whole then
        takeApart rest entry.first ++ [entry.second]
      else
        takeApart rest code

/-! ## Order -/

/-- Put a code point before ordered ones, or further back if it is a mark of a higher class. -/
def placeMark (code : Nat) : List Nat → List Nat
  | [] => [code]
  | head :: rest =>
      if 0 < combiningClass head ∧ combiningClass head < combiningClass code then
        head :: placeMark code rest
      else
        code :: head :: rest

/-- Order each run of marks by class; marks of one class keep their order. -/
def orderMarks (codes : List Nat) : List Nat :=
  codes.foldr placeMark []

/-! ## Joining -/

/-- The Korean syllable of two letters, or of a syllable without a last letter and that letter. -/
def joinSyllable? (first second : Nat) : Option Nat :=
  if 0x1100 ≤ first ∧ first ≤ 0x1112 ∧ 0x1161 ≤ second ∧ second ≤ 0x1175 then
    some (0xAC00 + ((first - 0x1100) * 21 + (second - 0x1161)) * 28)
  else if
      0xAC00 ≤ first ∧ first ≤ 0xD7A3 ∧ (first - 0xAC00) % 28 = 0 ∧
        0x11A8 ≤ second ∧ second ≤ 0x11C2 then
    some (first + (second - 0x11A7))
  else
    none

/-- The character that stands for two. -/
def join? (first second : Nat) : Option Nat :=
  match joinSyllable? first second with
  | some syllable => some syllable
  | none =>
      (composites.find? fun entry => entry.first = first && entry.second = second).map
        Composite.whole

/-- Whether the marks since a character, the last one first, keep a code point off it. -/
def isKeptOff
    (marks : List Nat)
    (code : Nat) :
    Bool :=
  match marks with
  | [] => false
  | last :: _ => combiningClass code ≤ combiningClass last

/-- Join what follows a character and the marks kept after it, the last one first. -/
def joinAfter
    (start : Nat)
    (marks : List Nat) :
    List Nat → List Nat
  | [] => start :: marks.reverse
  | code :: rest =>
      match if isKeptOff marks code then none else join? start code with
      | some joined => joinAfter joined marks rest
      | none =>
          if combiningClass code = 0 then
            start :: marks.reverse ++ joinAfter code [] rest
          else
            joinAfter start (code :: marks) rest

/-- Join ordered code points. Marks at the front have nothing to join. -/
def joinMarks : List Nat → List Nat
  | [] => []
  | code :: rest =>
      if combiningClass code = 0 then joinAfter code [] rest else code :: joinMarks rest

/-- The composed form of a text. -/
def composed (text : List Char) : List Char :=
  let parts := text.flatMap fun c => takeApart composites c.toNat
  (joinMarks (orderMarks parts)).map Char.ofNat

end FeatureFlags.Text
