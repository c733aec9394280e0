/-
  Strict JSON values: the values that a reader accepts as DATA.

  A reader that skips a value checks its grammar only.  A reader that takes a value as data asks for
  more, whatever it does with it later:

    1.  it opens at most a given number of brackets inside each other;
    2.  every string is a text;
    3.  every number is in the range of a double, rounded step by step.
-/
import LoopLowering.Json.Basic
import LoopLowering.Numeric.DoubleRange

namespace LoopLowering.Json

/-- How many brackets a text may have open at the same time. -/
def maxNesting : Nat := 127

/-- Whether a number is in range. -/
def Number.inRange : Number → Bool
  | .whole _ magnitude => Numeric.fitsStepwise magnitude 0
  | .scaled _ coefficient exponent => Numeric.fitsStepwise coefficient exponent

mutual

/-- Whether a value can be read as data where `room` more brackets may be opened. -/
def isStrict (room : Nat) : Json → Bool
  | .null => true
  | .bool _ => true
  | .number n => n.inRange
  | .string s => s.isSome
  | .array items =>
    match room with
    | 0 => false
    | room + 1 => allStrict room items
  | .object fields =>
    match room with
    | 0 => false
    | room + 1 => allFieldsStrict room fields

/-- Whether all items of an array can be read as data. -/
def allStrict (room : Nat) : List Json → Bool
  | [] => true
  | v :: rest => isStrict room v && allStrict room rest

/-- Whether all fields of an object, keys included, can be read as data. -/
def allFieldsStrict (room : Nat) : List (Option String × Json) → Bool
  | [] => true
  | (key, v) :: rest => key.isSome && isStrict room v && allFieldsStrict room rest

end

/-- The one value of a field: `some none` if the field is absent, `none` if it is repeated. -/
def field? (fields : List (Option String × Json)) (key : String) : Option (Option Json) :=
  match fields.filter fun f => f.1 = some key with
  | [] => some none
  | [f] => some (some f.2)
  | _ => none

/-- The one value of a field that must be there. -/
def required? (fields : List (Option String × Json)) (key : String) : Option Json :=
  (field? fields key).join

/-- The word of 32 bits that a value is, if it is one. -/
def word32? (j : Json) : Option UInt32 :=
  j.nat?.bind fun n => if n < UInt32.size then some (UInt32.ofNat n) else none

/-- The word of 64 bits that a value is, if it is one. -/
def word64? (j : Json) : Option UInt64 :=
  j.nat?.bind fun n => if n < UInt64.size then some (UInt64.ofNat n) else none

@[simp] theorem word32?_nat (n : UInt32) : (nat n.toNat).word32? = some n := by
  simp [word32?, n.toNat_lt_size]

@[simp] theorem word64?_nat (n : UInt64) : (nat n.toNat).word64? = some n := by
  simp [word64?, n.toNat_lt_size]

end LoopLowering.Json
