/-
  Sets of characters as ranges of code points.

  A table of ranges is ASCENDING when each range ends before the next one begins, with at least one code
  point between them.  Then every set has one table only, and its size is the sum of the sizes of the
  ranges.
-/

namespace LoopLowering.Text

/-- Whether a character is in one of the ranges, both of whose ends are included. -/
def inRanges (ranges : List (Nat × Nat)) (c : Char) : Bool :=
  ranges.any fun (low, high) => low ≤ c.toNat && c.toNat ≤ high

/-- Whether ranges follow each other with gaps between them. -/
def ascending : List (Nat × Nat) → Bool
  | [] => true
  | [(low, high)] => low ≤ high
  | (low, high) :: next :: rest =>
    low ≤ high && high + 1 < next.1 && ascending (next :: rest)

/-- How many code points there are in ranges that do not overlap. -/
def sizeOfRanges (ranges : List (Nat × Nat)) : Nat :=
  ranges.foldl (fun n (low, high) => n + (high + 1 - low)) 0

end LoopLowering.Text
