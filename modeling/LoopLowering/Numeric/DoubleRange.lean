/-
  The range of 64-bit binary floating point, decided in exact integers.

  A format that stores numbers as doubles refuses the decimals that are too large for one.  Two
  rules occur:

    1.  EXACT rounding: a decimal is too large when it is at least halfway from the largest double
        to the next power of two, that is at least `2^1024 - 2^970`;
    2.  rounding STEP BY STEP: the leading digits that fit 64 bits are rounded to a double, a power
        of ten is rounded to a double, and the product of the two is rounded.

  Neither needs a floating-point value: a rounded positive integer is an integer again, and the
  product of two doubles overflows exactly when the integer product reaches the bound of rule 1.
-/

import LoopLowering.Numeric.Rounding

namespace LoopLowering.Numeric

/-- A positive real overflows a double when it is at least this large. -/
def doubleOverflow : Nat := Nat.pow 2 1024 - Nat.pow 2 970

/-- Drops the last decimal digits of `n` that keep it from fitting 64 bits; gives the leading
    digits and how many were dropped.  `fuel` bounds the number of digits to drop. -/
def leadingWord : Nat → Nat → Nat → Nat × Nat
  | 0, n, dropped => (n, dropped)
  | fuel + 1, n, dropped =>
    if n < UInt64.size then (n, dropped) else leadingWord fuel (n / 10) (dropped + 1)

/-- Whether `coefficient * 10 ^ exponent`, rounded step by step, stays a finite double. -/
def fitsStepwise (coefficient : Nat) (exponent : Int) : Bool :=
  let (leading, dropped) := leadingWord coefficient.log2 coefficient 0
  let scale := exponent + dropped
  if leading = 0 ∨ scale ≤ 0 then true
  else if 308 < scale then false
  else roundTo53 leading * roundTo53 (Nat.pow 10 scale.toNat) < doubleOverflow

/-- Whether `coefficient * 10 ^ exponent`, rounded once, stays a finite double. -/
def fitsExactly (coefficient : Nat) (exponent : Int) : Bool :=
  if coefficient = 0 then true
  else if 0 ≤ exponent then
    exponent ≤ 309 && coefficient * Nat.pow 10 exponent.toNat < doubleOverflow
  else
    -- a coefficient of `k` bits is below `10 ^ k`, so a larger divisor leaves less than one
    (coefficient.log2 + 1 : Int) ≤ -exponent ||
      coefficient < doubleOverflow * Nat.pow 10 (-exponent).toNat

example : fitsExactly 17976931348623157 292 = true := by decide +kernel
example : fitsExactly 17976931348623159 292 = false := by decide +kernel

end LoopLowering.Numeric
