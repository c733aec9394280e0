/-
  Rounding in exact integers.

  A positive quotient `num / den` is rounded to a multiple of a unit, an exact tie going to the even
  multiple.  Two units occur: a fixed one (`roundHalfEven`, in units of one), and the unit that leaves 53
  significant bits (`roundTo53`), which is how a 64-bit binary floating-point number is made.
-/

namespace LoopLowering.Numeric

/-- The whole number nearest to `num / den`, an exact tie going to the even neighbour. -/
def roundHalfEven (num den : Nat) : Nat :=
  let quotient := num / den
  let twice := 2 * (num % den)
  if twice < den ∨ (twice = den ∧ quotient % 2 = 0) then quotient else quotient + 1

/-- The quotient `num / den` with 53 significant bits; below `2 ^ 53` a whole number. -/
def ratioTo53 (num den : Nat) : Nat :=
  let unit := Nat.pow 2 ((num / den).log2 - 52)
  roundHalfEven num (den * unit) * unit

/-- A number with 53 significant bits. -/
def roundTo53 (n : Nat) : Nat := ratioTo53 n 1

end LoopLowering.Numeric
