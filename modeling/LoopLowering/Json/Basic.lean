/-
  JSON values, as a reader sees them before it knows what they stand for.

  A value keeps everything that some reader of this library has to tell apart:

    * a NUMBER says whether it was written with a fraction or an exponent, because a whole-number
      field takes neither, and `-0` is kept apart from `0`;
    * a STRING may be no text at all: an escape can name half of a surrogate pair.  Such a string is
      still well-formed JSON, so it is kept as `none` and refused only where a text is asked for;
    * an OBJECT keeps its fields in order, repeated ones included.
-/

namespace LoopLowering

/-- A JSON number. -/
inductive Json.Number where
  /-- Written with digits alone. -/
  | whole (negative : Bool) (magnitude : Nat)
  /-- Written with a fraction or an exponent: `coefficient * 10 ^ exponent`. -/
  | scaled (negative : Bool) (coefficient : Nat) (exponent : Int)
  deriving DecidableEq, Repr, Inhabited

/-- A JSON value; a string or a key is `none` when it names half of a surrogate pair. -/
inductive Json where
  | null
  | bool (b : Bool)
  | number (n : Json.Number)
  | string (s : Option String)
  | array (items : List Json)
  | object (fields : List (Option String × Json))
  deriving Inhabited, Repr

namespace Json

/-- A text as a JSON string. -/
def text (s : String) : Json := .string (some s)

/-- A natural number as a JSON number. -/
def nat (n : Nat) : Json := .number (.whole false n)

/-- An integer as a JSON number. -/
def int (i : Int) : Json := .number (.whole (i < 0) i.natAbs)

/-- An object with proper keys. -/
def record (fields : List (String × Json)) : Json :=
  .object (fields.map fun (key, value) => (some key, value))

/-! ## Views -/

/-- The natural number that a value is, if it is one; `-0` is none. -/
def nat? : Json → Option Nat
  | .number (.whole false n) => some n
  | _ => none

/-- The integer that a value is, if it is one; `-0` is none. -/
def int? : Json → Option Int
  | .number (.whole false n) => some n
  | .number (.whole true (n + 1)) => some (-(n + 1 : Nat))
  | _ => none

/-- The text that a value is, if it is one. -/
def text? : Json → Option String
  | .string s => s
  | _ => none

@[simp] theorem text?_text (s : String) : (text s).text? = some s := rfl

@[simp] theorem nat?_nat (n : Nat) : (nat n).nat? = some n := rfl

end Json

end LoopLowering
