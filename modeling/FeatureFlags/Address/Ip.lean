import FeatureFlags.Address.Escape

namespace FeatureFlags.Address

/-!
# Numeric hosts

A host whose last label is a number is an address of four bytes. Its parts may be
decimal, octal with a leading zero, or hexadecimal with a leading `0x`, and the
last part fills all bytes that the others leave. A host in brackets is an address
of eight pieces of sixteen bits, the last two of which may be written as four
decimal bytes. It is printed with its longest run of zero pieces left out.
-/

/-- The parts of a text between separators. -/
def splitAt (separator : Char) : List Char → List (List Char)
  | [] => [[]]
  | c :: rest =>
      if c = separator then
        [] :: splitAt separator rest
      else
        match splitAt separator rest with
        | [] => [[c]]
        | part :: parts => (c :: part) :: parts

/-- The number that digits of a base spell. -/
def ofDigits?
    (base : Nat)
    (digits : List Char) :
    Option Nat :=
  digits.foldlM
    (fun value c => do
      let digit ← hexValue? c
      if digit < base then some (base * value + digit) else none)
    0

/-- The number that a part of a numeric host spells. -/
def hostNumber? : List Char → Option Nat
  | [] => none
  | '0' :: 'x' :: rest => ofDigits? 16 rest
  | '0' :: 'X' :: rest => ofDigits? 16 rest
  | ['0'] => some 0
  | '0' :: rest => ofDigits? 8 rest
  | digits => ofDigits? 10 digits

/-- The labels of a host, a last empty one being left out. -/
def hostLabels (host : List Char) : List (List Char) :=
  let labels := splitAt '.' host
  if labels.getLast? = some [] ∧ 1 < labels.length then labels.dropLast else labels

/-- Whether the last label of a host is a number. -/
def endsInNumber (host : List Char) : Bool :=
  match (hostLabels host).getLast? with
  | none => false
  | some label => (!label.isEmpty && label.all Char.isDigit) || (hostNumber? label).isSome

/-- The number below a weight that bytes and a last number, which fills the rest, make up. -/
def fillBytes? : Nat → List Nat → Option Nat
  | _, [] => none
  | weight, [last] => if last < weight then some last else none
  | weight, byte :: rest =>
      if byte < 256 then
        (fillBytes? (weight / 256) rest).map fun lower => byte * (weight / 256) + lower
      else
        none

/-- The number of four bytes that the numbers of a numeric host stand for. -/
def fourBytes? (numbers : List Nat) : Option Nat :=
  if numbers.length ≤ 4 then fillBytes? 4294967296 numbers else none

/-- The text of an address of four bytes. -/
def writeFourBytes (number : Nat) : String :=
  let byte (weight : Nat) : String := toString (number / weight % 256)
  byte 16777216 ++ "." ++ byte 65536 ++ "." ++ byte 256 ++ "." ++ byte 1

/-- The canonical text of a numeric host. -/
def readFourBytes? (host : List Char) : Option String := do
  let numbers ← (hostLabels host).mapM hostNumber?
  return writeFourBytes (← fourBytes? numbers)

/-!
## Addresses of eight pieces
-/

/-- The decimal byte of a part: at most 255, without leading zeros. -/
def decimalByte? (digits : List Char) : Option Nat :=
  match digits with
  | [] => none
  | ['0'] => some 0
  | '0' :: _ => none
  | _ => (ofDigits? 10 digits).filter (· < 256)

/-- The piece that one to four hexadecimal digits spell. -/
def piece? (digits : List Char) : Option Nat :=
  if digits.isEmpty ∨ 4 < digits.length then none else ofDigits? 16 digits

/-- The pieces of parts between colons, the last of which may spell four bytes. -/
def pieces? : List (List Char) → Option (List Nat)
  | [] => some []
  | [last] =>
      if '.' ∈ last then
        match (splitAt '.' last).mapM decimalByte? with
        | some [first, second, third, fourth] => some [first * 256 + second, third * 256 + fourth]
        | _ => none
      else
        (piece? last).map ([·])
  | part :: rest => do
      let piece ← piece? part
      let pieces ← pieces? rest
      return piece :: pieces

/-- The pieces of one side of a gap; an empty side has none. -/
def sidePieces? (side : List Char) : Option (List Nat) :=
  if side.isEmpty then some [] else pieces? (splitAt ':' side)

/-- The texts before and after the first double colon. -/
def splitAtGap? : List Char → Option (List Char × List Char)
  | [] => none
  | ':' :: ':' :: rest => some ([], rest)
  | c :: rest => (splitAtGap? rest).map fun (before, after) => (c :: before, after)

/-- The eight pieces that a text in brackets spells. -/
def readPieces? (text : List Char) : Option (List Nat) :=
  match splitAtGap? text with
  | none => do
      let pieces ← pieces? (splitAt ':' text)
      if pieces.length = 8 then some pieces else none
  | some (before, after) => do
      if '.' ∈ before then none
      let front ← sidePieces? before
      let back ← sidePieces? after
      if front.length + back.length < 8 then
        some (front ++ List.replicate (8 - front.length - back.length) 0 ++ back)
      else
        none

/-- The number of zeros at the front. -/
def leadingZeros (pieces : List Nat) : Nat :=
  (pieces.takeWhile (· = 0)).length

/-- Where the first longest run of at least two zeros starts, and its length. -/
def longestGap : Nat → List Nat → Option (Nat × Nat)
  | _, [] => none
  | start, piece :: rest =>
      let length := leadingZeros (piece :: rest)
      match longestGap (start + 1) rest with
      | some (later, longer) =>
          if longer ≤ length then some (start, length) else some (later, longer)
      | none => if 2 ≤ length then some (start, length) else none

/-- The lower-case hexadecimal text of a piece. -/
def writePiece (piece : Nat) : String :=
  String.ofList (Nat.toDigits 16 piece)

/-- The text of pieces between colons. -/
def writePieces (pieces : List Nat) : String :=
  ":".intercalate (pieces.map writePiece)

/-- The text of an address of eight pieces. -/
def writeEightPieces (pieces : List Nat) : String :=
  match longestGap 0 pieces with
  | none => "[" ++ writePieces pieces ++ "]"
  | some (start, length) =>
      "[" ++ writePieces (pieces.take start) ++ "::" ++
        writePieces (pieces.drop (start + length)) ++ "]"

end FeatureFlags.Address
