/-
  Durations in seconds with two decimals.

  A duration is a number of nanoseconds.  Its text goes through a 64-bit floating-point number, in three
  roundings: the nanoseconds of the last second are divided by a billion, the whole seconds are added,
  and the sum, taken exactly, is rounded to hundredths.  All three send a tie to the even neighbour.
  The numbers in between are held as multiples of `2 ^ -100`, which is fine enough for each of them.
-/
import LoopLowering.Duration
import LoopLowering.Numeric.Rounding
import LoopLowering.Text.Decimal

namespace LoopLowering.Numeric

open Duration (nanosPerSecond)
open LoopLowering.Text

/-- The floating-point number of seconds, as a multiple of `2 ^ -100`. -/
def secondsScaled (nanos : Nat) : Nat :=
  let scale := Nat.pow 2 100
  let whole := roundTo53 (nanos / nanosPerSecond)
  let rest := ratioTo53 (nanos % nanosPerSecond * scale) nanosPerSecond
  roundTo53 (whole * scale + rest)

/-- The duration in hundredths of a second. -/
def hundredths (nanos : Nat) : Nat := roundHalfEven (100 * secondsScaled nanos) (Nat.pow 2 100)

/-- The duration in seconds with two decimals. -/
def secondsText (nanos : Nat) : String :=
  let n := hundredths nanos
  String.ofList (Decimal.digits (n / 100) ++ '.' :: Decimal.digits (n / 10 % 10) ++
    Decimal.digits (n % 10))

example : secondsText 125000000 = "0.12" := by decide +kernel
example : secondsText 375000000 = "0.38" := by decide +kernel
example : secondsText 61005000000 = "61.01" := by decide +kernel

end LoopLowering.Numeric
