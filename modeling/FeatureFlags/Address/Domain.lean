import FeatureFlags.Address.Ip
import FeatureFlags.Address.Name.Direction
import FeatureFlags.Address.Name.Folding
import FeatureFlags.Address.Name.Joining
import FeatureFlags.Address.Punycode

namespace FeatureFlags.Address

/-!
# Domain names

A name of any script is folded, and its labels are then written with ASCII
characters only. A label that is already written so has to spell a folded label
of another script.
-/

/-- The longest label of another script that is written with ASCII characters. -/
def maxLabelLength : Nat :=
  1000

/-- The longest spelling of a label that is read. -/
def maxSpellingLength : Nat :=
  2000

/-- The label that a folded label spells, or itself. -/
def spelledLabel? (label : List Char) : Option (List Char) :=
  match label with
  | 'x' :: 'n' :: '-' :: '-' :: spelled =>
      if spelled.length ≤ maxSpellingLength ∧ spelled.getLast? ≠ some '-' then
        match Punycode.decode? spelled with
        | some name =>
            if Name.isFolded name ∧ name.any (fun c => 0x80 ≤ c.toNat) then some name else none
        | none => none
      else
        none
  | _ => some label

/-- Whether a label that is not written in ASCII characters may be part of a name. -/
def isUsableLabel (label : List Char) : Bool :=
  !label.head?.any Text.isMark &&
    Name.areJoinersMeaningful label &&
    (label.all (fun c => c.toNat < 0x80) || label.length ≤ maxLabelLength)

/-- A label in ASCII characters. -/
def asciiLabel (label : List Char) : List Char :=
  if label.all fun c => c.toNat < 0x80 then
    label
  else
    'x' :: 'n' :: '-' :: '-' :: Punycode.encode label

/-- A name in ASCII characters, given the bytes of its UTF-8 form. -/
def asciiName? (bytes : List UInt8) : Option (List Char) := do
  let text ← String.fromUTF8? ⟨bytes.toArray⟩
  let folded ← Name.fold? text.toList
  let labels := splitAt '.' folded
  let spelled ← labels.mapM spelledLabel?
  if spelled.all isUsableLabel ∧ Name.areReadable spelled then
    let written := List.zipWith
      (fun label name => if label.all fun c => c.toNat < 0x80 then label else asciiLabel name)
      labels spelled
    return List.intercalate ['.'] written
  else
    none

end FeatureFlags.Address
