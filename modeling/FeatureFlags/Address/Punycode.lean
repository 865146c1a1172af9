namespace FeatureFlags.Address.Punycode

/-!
# Punycode

Names of any script written with ASCII letters, digits and hyphens. The ASCII
characters come first. Then the others follow in the order of their code points:
each is written as the number of steps from the one before it, a step being a
place in the text or a code point, in digits of base thirty-six whose weights
adapt to the numbers seen so far.
-/

/-- The letter or digit with a value below thirty-six. -/
def digit (value : Nat) : Char :=
  if value < 26 then Char.ofNat (0x61 + value) else Char.ofNat (0x30 + value - 26)

/-- The value of a letter or digit. -/
def digitValue? (c : Char) : Option Nat :=
  if 'a' ≤ c ∧ c ≤ 'z' then
    some (c.toNat - 0x61)
  else if 'A' ≤ c ∧ c ≤ 'Z' then
    some (c.toNat - 0x41)
  else if '0' ≤ c ∧ c ≤ '9' then
    some (c.toNat - 0x30 + 26)
  else
    none

/-- The value from which a digit at a position does not end its number. -/
def threshold (position bias : Nat) : Nat :=
  if position ≤ bias then 1 else if bias + 26 ≤ position then 26 else position - bias

/-- A threshold is at least one. -/
theorem threshold_pos (position bias : Nat) : 1 ≤ threshold position bias := by
  unfold threshold
  split
  · omega
  · split <;> omega

/-- Halve the weight of a number that is too large, thirty-five steps at a time. -/
def dampen (delta position : Nat) : Nat :=
  if 455 < delta then
    dampen (delta / 35) (position + 36)
  else
    position + 36 * delta / (delta + 38)
termination_by delta
decreasing_by exact Nat.div_lt_self (by omega) (by omega)

/-- The bias after a number, given how many characters have been placed. -/
def adapt
    (delta placed : Nat)
    (isFirst : Bool) :
    Nat :=
  let scaled := if isFirst then delta / 700 else delta / 2
  dampen (scaled + scaled / placed) 0

/-- The digits of a number, the lowest first. -/
def writeNumber (bias position number : Nat) : List Char :=
  let limit := threshold position bias
  if number < limit then
    [digit number]
  else
    digit (limit + (number - limit) % (36 - limit)) ::
      writeNumber bias (position + 36) ((number - limit) / (36 - limit))
termination_by number
decreasing_by
  have positive := threshold_pos position bias
  have quotient : (number - threshold position bias) / (36 - threshold position bias) ≤
      number - threshold position bias := Nat.div_le_self _ _
  omega

/-- How far a text has been written. -/
structure Progress where
  written : List Char
  /-- Steps since the last character that was written. -/
  delta : Nat
  bias : Nat
  /-- Characters written so far. -/
  placed : Nat

/-- Pass a character of the text while the characters of one code point are written. -/
def writeOne
    (plain point : Nat)
    (progress : Progress)
    (c : Char) :
    Progress :=
  if c.toNat < point then
    { progress with delta := progress.delta + 1 }
  else if c.toNat = point then
    { written := progress.written ++ writeNumber progress.bias 36 progress.delta
      delta := 0
      bias := adapt progress.delta (progress.placed + 1) (progress.placed = plain)
      placed := progress.placed + 1 }
  else
    progress

/-- Write the characters of increasing code points, the first one not before `start`. -/
def writePoints
    (text : List Char)
    (plain : Nat) :
    List Nat → Nat → Progress → Progress
  | [], _, progress => progress
  | point :: rest, start, progress =>
      let reached :=
        { progress with delta := progress.delta + (point - start) * (progress.placed + 1) }
      let passed := text.foldl (writeOne plain point) reached
      writePoints text plain rest (point + 1) { passed with delta := passed.delta + 1 }

/-- Insert a number into increasing numbers unless it is there. -/
def insertPoint (point : Nat) : List Nat → List Nat
  | [] => [point]
  | head :: rest =>
      if point < head then
        point :: head :: rest
      else if point = head then
        head :: rest
      else
        head :: insertPoint point rest

/-- Write a text. -/
def encode (text : List Char) : List Char :=
  let plain := text.filter fun c => c.toNat < 0x80
  let points :=
    (text.filter fun c => 0x80 ≤ c.toNat).foldr (fun c points => insertPoint c.toNat points) []
  let others := (writePoints text plain.length points 0x80 ⟨[], 0, 72, plain.length⟩).written
  if plain.isEmpty then others else plain ++ '-' :: others

/-- Read the digits of a number, its weight so far being given; the rest is shorter. -/
def readNumber?
    (bias position weight value : Nat) :
    (text : List Char) → Option (Nat × { rest : List Char // rest.length < text.length })
  | [] => none
  | c :: rest =>
      match digitValue? c with
      | none => none
      | some found =>
          let limit := threshold position bias
          if found < limit then
            some (value + found * weight, ⟨rest, by simp⟩)
          else
            match readNumber? bias (position + 36) (weight * (36 - limit))
                (value + found * weight) rest with
            | none => none
            | some (number, ⟨remaining, shorter⟩) =>
                some (number, ⟨remaining, Nat.lt_trans shorter (by simp)⟩)

/-- Read the numbers of a text and place their characters. -/
def readPoints?
    (bias point place : Nat)
    (placed : List Char)
    (text : List Char) :
    Option (List Char) :=
  match text with
  | [] => some placed
  | c :: rest =>
      match readNumber? bias 36 1 place (c :: rest) with
      | none => none
      | some (reached, ⟨remaining, _⟩) =>
          let count := placed.length + 1
          let found := point + reached / count
          if found.isValidChar then
            readPoints? (adapt (reached - place) count (place = 0)) found (reached % count + 1)
              (placed.insertIdx (reached % count) (Char.ofNat found)) remaining
          else
            none
termination_by text.length
decreasing_by assumption

/-- The parts before and after the last hyphen; without a hyphen there is no part before it. -/
def splitLastHyphen (text : List Char) : List Char × List Char :=
  let after := (text.reverse.takeWhile (· != '-')).reverse
  (text.take (text.length - after.length - 1), after)

/-- Read a written text. -/
def decode? (text : List Char) : Option (List Char) :=
  let (plain, others) := splitLastHyphen text
  if plain.all fun c => c.toNat < 0x80 then readPoints? 72 0x80 0 plain others else none

end FeatureFlags.Address.Punycode
