/-!
Sets of characters written as closed intervals of code points.
-/

namespace ApiGuide.Text

/-- Closed intervals of code points, in ascending order. -/
abbrev CodeRanges := List (Nat × Nat)

/-- One of the intervals holds the code point of `c`. -/
def CodeRanges.has (ranges : CodeRanges) (c : Char) : Bool :=
  ranges.any fun (low, high) => low ≤ c.toNat && c.toNat ≤ high

/-- A class of characters that is `ascii` below U+0080 and given by a table from there on. -/
def classOf (ascii : Char → Bool) (ranges : CodeRanges) (c : Char) : Bool :=
  if c.toNat < 0x80 then ascii c else ranges.has c

end ApiGuide.Text
