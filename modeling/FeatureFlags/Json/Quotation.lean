import FeatureFlags.Json.Fault

namespace FeatureFlags.Json

/-!
# Quoted texts in JSON

The body of a quoted text is first split into characters, escaped characters and
escaped UTF-16 units; skipping a text needs no more. Reading it joins pairs of
surrogate units, and faults where a surrogate has no partner.
-/

/-- A part of a quoted text. -/
inductive Piece where
  | character (c : Char)
  | escaped (c : Char)
  | unit (value : Nat)

/-- How the body of a quoted text ends. -/
inductive Ending where
  | closed (rest : List Char)
  | endOfText
  | controlCharacter
  | unknownEscape
  | malformedUnit

/-- The body of a quoted text: its pieces in order, and how it ends. -/
inductive Quotation where
  | ended (ending : Ending)
  | piece (head : Piece) (tail : Quotation)

/-- How a body ends. -/
def Quotation.ending : Quotation → Ending
  | .ended ending => ending
  | .piece _ tail => tail.ending

/-- The value of a hexadecimal digit. -/
def hexValue? (c : Char) : Option Nat :=
  if '0' ≤ c ∧ c ≤ '9' then some (c.toNat - '0'.toNat)
  else if 'a' ≤ c ∧ c ≤ 'f' then some (c.toNat - 'a'.toNat + 10)
  else if 'A' ≤ c ∧ c ≤ 'F' then some (c.toNat - 'A'.toNat + 10)
  else none

/-- The value of four hexadecimal digits. -/
def unitOfDigits?
    (first second third fourth : Char) :
    Option Nat := do
  let first ← hexValue? first
  let second ← hexValue? second
  let third ← hexValue? third
  let fourth ← hexValue? fourth
  some (((first * 16 + second) * 16 + third) * 16 + fourth)

/-- The character of a one-letter escape. -/
def simpleEscape? : Char → Option Char
  | '"' => some '"'
  | '\\' => some '\\'
  | '/' => some '/'
  | 'b' => some '\x08'
  | 'f' => some '\x0c'
  | 'n' => some '\n'
  | 'r' => some '\r'
  | 't' => some '\t'
  | _ => none

/-- The number of bytes of a text in UTF-8. -/
def byteLength (text : List Char) : Nat :=
  text.foldr (fun c length => c.utf8Size + length) 0

/-- Where digits of an escaped unit are missing: the text ends within four bytes, or it does not. -/
def missingDigits (text : List Char) : Ending :=
  if byteLength text < 4 then .endOfText else .malformedUnit

/-- Split the body of a quoted text into its pieces up to the closing quote. -/
def splitQuotation : List Char → Quotation
  | [] => .ended .endOfText
  | ['\\'] => .ended .endOfText
  | '\\' :: 'u' :: first :: second :: third :: fourth :: rest =>
      match unitOfDigits? first second third fourth with
      | some value => .piece (.unit value) (splitQuotation rest)
      | none => .ended (missingDigits (first :: second :: third :: fourth :: rest))
  | '\\' :: mark :: rest =>
      if mark = 'u' then
        .ended (missingDigits rest)
      else
        match simpleEscape? mark with
        | some c => .piece (.escaped c) (splitQuotation rest)
        | none => .ended .unknownEscape
  | c :: rest =>
      if c = '"' then .ended (.closed rest)
      else if c.toNat < 0x20 then .ended .controlCharacter
      else .piece (.character c) (splitQuotation rest)

/-- Whether a unit opens a surrogate pair. -/
def isLeadingSurrogate (value : Nat) : Bool :=
  0xD800 ≤ value && value ≤ 0xDBFF

/-- Whether a unit closes a surrogate pair. -/
def isTrailingSurrogate (value : Nat) : Bool :=
  0xDC00 ≤ value && value ≤ 0xDFFF

/-- The character of a surrogate pair. -/
def joinSurrogates
    (leading trailing : Nat) :
    Char :=
  Char.ofNat (0x10000 + (leading - 0xD800) * 0x400 + (trailing - 0xDC00))

namespace Ending

/-- Why a text with this ending is not read further. -/
def fault : Ending → Fault
  | .closed _ => .trailingCharacters
  | .endOfText => .endInString
  | .controlCharacter => .controlCharacter
  | .unknownEscape => .invalidEscape
  | .malformedUnit => .invalidEscape

/-- Why a leading surrogate right before this ending has no partner. -/
def partnerFault : Ending → Fault
  | .closed _ => .endInSurrogatePair
  | .endOfText => .endInString
  | .controlCharacter => .endInSurrogatePair
  | .unknownEscape => .endInSurrogatePair
  | .malformedUnit => .invalidEscape

end Ending

/-- The text of a body, which must end with a closing quote. -/
def Quotation.join : Quotation → Except Fault (List Char)
  | .ended (.closed _) => .ok []
  | .ended ending => .error ending.fault
  | .piece (.character c) tail => (c :: ·) <$> tail.join
  | .piece (.escaped c) tail => (c :: ·) <$> tail.join
  | .piece (.unit value) tail =>
      if isTrailingSurrogate value then
        .error .loneSurrogate
      else if isLeadingSurrogate value then
        match tail with
        | .ended ending => .error ending.partnerFault
        | .piece (.unit partner) tail =>
            if isTrailingSurrogate partner then
              (joinSurrogates value partner :: ·) <$> tail.join
            else
              .error .loneSurrogate
        | .piece _ _ => .error .endInSurrogatePair
      else
        (Char.ofNat value :: ·) <$> tail.join

end FeatureFlags.Json
