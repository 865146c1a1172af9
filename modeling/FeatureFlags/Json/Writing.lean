import FeatureFlags.Json.Basic
import FeatureFlags.Number.Numeral

namespace FeatureFlags.Json

/-!
# Compact JSON text

The one way in which trees are written: no blanks, entries in their order, and
only those characters escaped that have to be.
-/

/-- A hexadecimal digit in lower case. -/
def hexDigit (n : Nat) : Char :=
  Nat.digitChar (n % 16)

/-- A character as it stands in a quoted text. -/
def escapeChar (c : Char) : List Char :=
  if c = '"' then ['\\', '"']
  else if c = '\\' then ['\\', '\\']
  else if c = '\x08' then ['\\', 'b']
  else if c = '\x0c' then ['\\', 'f']
  else if c = '\n' then ['\\', 'n']
  else if c = '\r' then ['\\', 'r']
  else if c = '\t' then ['\\', 't']
  else if c.toNat < 0x20 then
    ['\\', 'u', '0', '0', hexDigit (c.toNat / 16), hexDigit c.toNat]
  else
    [c]

/-- A quoted text. -/
def quote (text : String) : List Char :=
  '"' :: text.toList.flatMap escapeChar ++ ['"']

/-- A number; those without a numeral are written as `null`. -/
def writeFloat (number : Number.Binary64) : List Char :=
  if number.isFinite then
    (number.write Number.documentStyle).toList
  else
    "null".toList

/-- Join written parts by commas. -/
def joinParts : List (List Char) → List Char
  | [] => []
  | [part] => part
  | part :: rest => part ++ ',' :: joinParts rest

namespace Tree

mutual

/-- The compact text of a tree. -/
def write : Tree → List Char
  | .null => "null".toList
  | .bool true => "true".toList
  | .bool false => "false".toList
  | .integer value => value.repr.toList
  | .float value => writeFloat value
  | .text value => quote value
  | .array items => '[' :: joinParts (writeItems items) ++ [']']
  | .object entries => '\x7b' :: joinParts (writeEntries entries) ++ ['\x7d']

/-- The compact texts of items. -/
def writeItems : List Tree → List (List Char)
  | [] => []
  | item :: rest => write item :: writeItems rest

/-- The compact texts of entries. -/
def writeEntries : List (String × Tree) → List (List Char)
  | [] => []
  | (key, value) :: rest => (quote key ++ ':' :: write value) :: writeEntries rest

end

/-- The compact text of a tree as a string. -/
def toText (tree : Tree) : String :=
  String.ofList (write tree)

end Tree

end FeatureFlags.Json
