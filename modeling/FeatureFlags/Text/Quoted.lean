import FeatureFlags.Text.Visible

namespace FeatureFlags.Text

/-!
# Quoted text

Text between double quotes as diagnostics show it. Quotes and backslashes are
escaped, the usual controls have short forms, and every other character without
a form of its own is written by its code point.
-/

/-- The lower-case hexadecimal digits of a number, without leading zeros. -/
def hexDigits (n : Nat) : List Char :=
  Nat.toDigits 16 n

/-- A character written by its code point. -/
def codePointEscape (c : Char) : List Char :=
  "\\u\x7b".toList ++ hexDigits c.toNat ++ "\x7d".toList

/-- A character as it stands between quotes. -/
def quotedChar (c : Char) : List Char :=
  if c = '\x00' then ['\\', '0']
  else if c = '\t' then ['\\', 't']
  else if c = '\r' then ['\\', 'r']
  else if c = '\n' then ['\\', 'n']
  else if c = '\\' then ['\\', '\\']
  else if c = '"' then ['\\', '"']
  else if isExtending c then codePointEscape c
  else if isVisible c then [c]
  else codePointEscape c

/-- A text between double quotes. -/
def quoted (text : String) : String :=
  String.ofList ('"' :: text.toList.flatMap quotedChar ++ ['"'])

/-- A list of texts between brackets, each of them quoted. -/
def quotedList (texts : List String) : String :=
  "[" ++ ", ".intercalate (texts.map quoted) ++ "]"

end FeatureFlags.Text
