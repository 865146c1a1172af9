namespace FeatureFlags.Address

/-!
# Escapes

Characters that may not stand in a part of an address are written as the bytes of
their UTF-8 form, each as a percent sign and two hexadecimal digits. Which
characters may stand differs from part to part. Form fields have a rule of their
own: letters, digits and `*-._` stand, a blank becomes a plus sign.
-/

/-- A set of ASCII characters that are escaped in a part of an address. -/
abbrev EscapeSet := Char → Bool

/-- Control characters. -/
def isControl (c : Char) : Bool :=
  c.toNat < 0x20 || c.toNat == 0x7F

/-- What is escaped in a fragment. -/
def fragmentSet : EscapeSet := fun c =>
  isControl c || c ∈ [' ', '"', '<', '>', '`']

/-- What is escaped in the query of an address of a common scheme. -/
def specialQuerySet : EscapeSet := fun c =>
  isControl c || c ∈ [' ', '"', '#', '<', '>', '\'']

/-- What is escaped in the query of any other address. -/
def querySet : EscapeSet := fun c =>
  isControl c || c ∈ [' ', '"', '#', '<', '>']

/-- What is escaped in a path. -/
def pathSet : EscapeSet := fun c =>
  fragmentSet c || c ∈ ['#', '?', '\x7b', '\x7d']

/-- What is escaped in a user name and a password. -/
def credentialSet : EscapeSet := fun c =>
  pathSet c || c ∈ ['/', ':', ';', '=', '@', '[', '\\', ']', '^', '|']

/-- The upper-case hexadecimal digit of a number below sixteen. -/
def hexDigit (n : Nat) : Char :=
  if n < 10 then Char.ofNat (n + 0x30) else Char.ofNat (n - 10 + 0x41)

/-- The escape of a byte. -/
def escapeByte (byte : UInt8) : List Char :=
  ['%', hexDigit (byte.toNat / 16), hexDigit (byte.toNat % 16)]

/-- The escape of a character. -/
def escapeChar (c : Char) : List Char :=
  (String.utf8EncodeChar c).flatMap escapeByte

/-- Escape what is in a set or is not ASCII. -/
def escape
    (escaped : EscapeSet)
    (text : List Char) :
    List Char :=
  text.flatMap fun c => if c.toNat < 0x80 && !escaped c then [c] else escapeChar c

/-- Whether a character of a form field stands for itself. -/
def standsInForm (c : Char) : Bool :=
  c.isAlphanum || c ∈ ['*', '-', '.', '_']

/-- Escape the name or the value of a form field. -/
def escapeForm (text : List Char) : List Char :=
  text.flatMap fun c =>
    if standsInForm c then [c] else if c = ' ' then ['+'] else escapeChar c

/-- The value of a hexadecimal digit. -/
def hexValue? (c : Char) : Option Nat :=
  if '0' ≤ c ∧ c ≤ '9' then
    some (c.toNat - 0x30)
  else if 'a' ≤ c ∧ c ≤ 'f' then
    some (c.toNat - 0x61 + 10)
  else if 'A' ≤ c ∧ c ≤ 'F' then
    some (c.toNat - 0x41 + 10)
  else
    none

/-- The bytes of a text in which escapes stand for bytes. -/
def unescape : List Char → List UInt8
  | [] => []
  | '%' :: high :: low :: rest =>
      match hexValue? high, hexValue? low with
      | some upper, some lower => UInt8.ofNat (16 * upper + lower) :: unescape rest
      | _, _ => String.utf8EncodeChar '%' ++ unescape (high :: low :: rest)
  | c :: rest => String.utf8EncodeChar c ++ unescape rest

end FeatureFlags.Address
