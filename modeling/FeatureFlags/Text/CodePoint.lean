namespace FeatureFlags.Text

/-!
# Sets of code points

A property of characters is data: a list of closed intervals of code points.
The tables of this library that state such a property (blanks, cased letters,
characters with a visible form) are lists of this kind, and membership is read
off them here. A simple mapping of characters is data too: a list of runs of code
points that are all mapped to the same distance.
-/

/-- A property of code points as a list of closed intervals. -/
abbrev CodePointRanges := List (Nat × Nat)

namespace CodePointRanges

/-- Whether a code point lies in one of the intervals. -/
def has
    (ranges : CodePointRanges)
    (code : Nat) :
    Bool :=
  ranges.any fun range => range.1 ≤ code && code ≤ range.2

end CodePointRanges

/--
A run of characters whose images lie at one common distance: every `stride`-th
code point from `first` to `last` is mapped `offset` places on.
-/
structure CodePointRun where
  first : Nat
  last : Nat
  stride : Nat
  offset : Int

namespace CodePointRun

/-- Whether the run maps a code point. -/
def covers
    (run : CodePointRun)
    (code : Nat) :
    Bool :=
  run.first ≤ code && code ≤ run.last && (code - run.first) % run.stride == 0

/-- The code point that the run maps a covered one to. -/
def image
    (run : CodePointRun)
    (code : Nat) :
    Nat :=
  ((code : Int) + run.offset).toNat

end CodePointRun

end FeatureFlags.Text
