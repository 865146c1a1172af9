import FeatureFlags.Text.CodePoint

namespace FeatureFlags.Text

/-!
# Blanks

The Unicode property `White_Space` and trimming by it. Numbers, booleans and
dates are read from text after blanks at both ends are dropped.
-/

/-- The code points with the Unicode property `White_Space`. -/
def blankRanges : CodePointRanges :=
  [(0x09, 0x0D), (0x20, 0x20), (0x85, 0x85), (0xA0, 0xA0), (0x1680, 0x1680),
    (0x2000, 0x200A), (0x2028, 0x2029), (0x202F, 0x202F), (0x205F, 0x205F),
    (0x3000, 0x3000)]

/-- Whether a character is a blank. -/
def isBlank (c : Char) : Bool :=
  blankRanges.has c.toNat

/-- Drop the blanks at the front. -/
def trimStart (text : List Char) : List Char :=
  text.dropWhile isBlank

/-- Drop the blanks at the end. -/
def trimEnd (text : List Char) : List Char :=
  (text.reverse.dropWhile isBlank).reverse

/-- Drop the blanks at both ends. -/
def trim (text : List Char) : List Char :=
  trimEnd (trimStart text)

end FeatureFlags.Text
