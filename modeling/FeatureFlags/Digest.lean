namespace FeatureFlags

/-!
# The SHA-256 digest

Bytes are padded to whole blocks of sixteen words; each block is expanded into
sixty-four schedule words and mixed into a state of eight words, which are the
digest at the end.
-/

namespace Digest

/-- The state that the blocks are mixed into. -/
structure State where
  a : UInt32
  b : UInt32
  c : UInt32
  d : UInt32
  e : UInt32
  f : UInt32
  g : UInt32
  h : UInt32

/-- The state before the first block. -/
def State.start : State :=
  ⟨0x6a09e667, 0xbb67ae85, 0x3c6ef372, 0xa54ff53a, 0x510e527f, 0x9b05688c, 0x1f83d9ab, 0x5be0cd19⟩

/-- One constant for every round. -/
def roundConstants : List UInt32 := [
    0x428a2f98, 0x71374491, 0xb5c0fbcf, 0xe9b5dba5, 0x3956c25b, 0x59f111f1, 0x923f82a4, 0xab1c5ed5,
    0xd807aa98, 0x12835b01, 0x243185be, 0x550c7dc3, 0x72be5d74, 0x80deb1fe, 0x9bdc06a7, 0xc19bf174,
    0xe49b69c1, 0xefbe4786, 0x0fc19dc6, 0x240ca1cc, 0x2de92c6f, 0x4a7484aa, 0x5cb0a9dc, 0x76f988da,
    0x983e5152, 0xa831c66d, 0xb00327c8, 0xbf597fc7, 0xc6e00bf3, 0xd5a79147, 0x06ca6351, 0x14292967,
    0x27b70a85, 0x2e1b2138, 0x4d2c6dfc, 0x53380d13, 0x650a7354, 0x766a0abb, 0x81c2c92e, 0x92722c85,
    0xa2bfe8a1, 0xa81a664b, 0xc24b8b70, 0xc76c51a3, 0xd192e819, 0xd6990624, 0xf40e3585, 0x106aa070,
    0x19a4c116, 0x1e376c08, 0x2748774c, 0x34b0bcb5, 0x391c0cb3, 0x4ed8aa4a, 0x5b9cca4f, 0x682e6ff3,
    0x748f82ee, 0x78a5636f, 0x84c87814, 0x8cc70208, 0x90befffa, 0xa4506ceb, 0xbef9a3f7, 0xc67178f2]

/-- Rotate a word to the right. -/
def rotate
    (word amount : UInt32) :
    UInt32 :=
  (word >>> amount) ||| (word <<< (32 - amount))

/-- The schedule word that follows sixteen words, of which the last comes first. -/
def nextScheduleWord (latest : List UInt32) : UInt32 :=
  let before2 := latest.getD 1 0
  let before15 := latest.getD 14 0
  let mix2 := rotate before2 17 ^^^ rotate before2 19 ^^^ (before2 >>> 10)
  let mix15 := rotate before15 7 ^^^ rotate before15 18 ^^^ (before15 >>> 3)
  latest.getD 15 0 + mix15 + latest.getD 6 0 + mix2

/-- Extend a reversed schedule by a number of words. -/
def extendSchedule :
    Nat → List UInt32 → List UInt32
  | 0, latest => latest
  | count + 1, latest => extendSchedule count (nextScheduleWord latest :: latest)

/-- The schedule of a block of sixteen words. -/
def schedule (block : List UInt32) : List UInt32 :=
  (extendSchedule 48 block.reverse).reverse

/-- One round with a constant and a schedule word. -/
def State.round
    (state : State)
    (constant word : UInt32) :
    State :=
  let mixE := rotate state.e 6 ^^^ rotate state.e 11 ^^^ rotate state.e 25
  let choice := (state.e &&& state.f) ^^^ (~~~state.e &&& state.g)
  let first := state.h + mixE + choice + constant + word
  let mixA := rotate state.a 2 ^^^ rotate state.a 13 ^^^ rotate state.a 22
  let majority := (state.a &&& state.b) ^^^ (state.a &&& state.c) ^^^ (state.b &&& state.c)
  ⟨first + (mixA + majority), state.a, state.b, state.c, state.d + first, state.e, state.f, state.g⟩

/-- Add two states word by word. -/
def State.add
    (left right : State) :
    State :=
  ⟨left.a + right.a, left.b + right.b, left.c + right.c, left.d + right.d,
    left.e + right.e, left.f + right.f, left.g + right.g, left.h + right.h⟩

/-- Mix a block of sixteen words into the state. -/
def State.compress
    (state : State)
    (block : List UInt32) :
    State :=
  let rounds := List.zip roundConstants (schedule block)
  state.add (rounds.foldl (fun current round => current.round round.1 round.2) state)

/-- The bytes of a natural in a fixed number of places, the most significant first. -/
def bigEndian :
    Nat → Nat → List UInt8
  | 0, _ => []
  | places + 1, n => bigEndian places (n / 256) ++ [UInt8.ofNat (n % 256)]

/-- A message with its end mark, zeros and length, in whole blocks of sixty-four bytes. -/
def pad (message : List UInt8) : List UInt8 :=
  let zeros := (119 - message.length % 64) % 64
  message ++ 0x80 :: List.replicate zeros 0 ++ bigEndian 8 (message.length * 8)

/-- The words of bytes, four at a time, the most significant byte first. -/
def wordsOfBytes : List UInt8 → List UInt32
  | first :: second :: third :: fourth :: rest =>
      ((first.toUInt32 <<< 24) ||| (second.toUInt32 <<< 16) |||
        (third.toUInt32 <<< 8) ||| fourth.toUInt32) :: wordsOfBytes rest
  | _ => []

/-- Mix all whole blocks of a list of words into the state. -/
def State.compressAll
    (state : State) :
    Nat → List UInt32 → State
  | 0, _ => state
  | blocks + 1, words => (state.compress (words.take 16)).compressAll blocks (words.drop 16)

/-- The bytes of a word, the most significant first. -/
def bytesOfWord (word : UInt32) : List UInt8 :=
  [(word >>> 24).toUInt8, (word >>> 16).toUInt8, (word >>> 8).toUInt8, word.toUInt8]

/-- The thirty-two digest bytes of a message. -/
def sha256 (message : List UInt8) : List UInt8 :=
  let words := wordsOfBytes (pad message)
  let final := State.start.compressAll (words.length / 16) words
  [final.a, final.b, final.c, final.d, final.e, final.f, final.g, final.h].flatMap bytesOfWord

end Digest

end FeatureFlags
