/-
  TOML values that are single words: booleans, numbers, dates and times.

  Whatever may follow a value (a blank, a line break, a comma, a closing bracket, a comment) is never a
  character of a word, so a word is read as a whole and then classified:

    1.  `true` and `false`;
    2.  dates and times of RFC 3339, each part optional but not the seconds;
    3.  whole numbers, with a sign or one of three bases, in the range of 64 bits;
    4.  floats, among them the infinities and NaN; a positive one must not overflow.

  Digits may be grouped by underscores, one at a time and only between digits.
-/
import LoopLowering.Toml.Value
import LoopLowering.Text.Decimal
import LoopLowering.Text.Pieces
import LoopLowering.Json.Quoted
import LoopLowering.Numeric.DoubleRange

namespace LoopLowering.Toml.Scalar

open LoopLowering.Text

/-- Whether a character can belong to a word. -/
def isWordChar (c : Char) : Bool :=
  c.isAlphanum || c = '_' || c = '+' || c = '-' || c = '.' || c = ':'

/-! ## Dates and times -/

/-- Reads exactly `n` digits. -/
def digits? (n : Nat) (cs : List Char) : Option (Nat × List Char) :=
  let ds := cs.take n
  if ds.length = n ∧ ds.all Char.isDigit then some (Decimal.value ds, cs.drop n) else none

/-- Reads exactly two digits of a number between `low` and `high`. -/
def pair? (low high : Nat) (cs : List Char) : Option (Nat × List Char) := do
  let (n, rest) ← digits? 2 cs
  if low ≤ n ∧ n ≤ high then return (n, rest) else none

/-- Drops one given character. -/
def drop? (c : Char) (cs : List Char) : Option (List Char) :=
  match cs with
  | d :: rest => if d = c then some rest else none
  | [] => none

/-- The days of a month. -/
def daysOf (year month : Nat) : Nat :=
  if month = 2 then
    if year % 4 = 0 ∧ (year % 100 ≠ 0 ∨ year % 400 = 0) then 29 else 28
  else if month ∈ [4, 6, 9, 11] then 30
  else 31

/-- Drops a date. -/
def dropDate? (cs : List Char) : Option (List Char) := do
  let (year, cs) ← digits? 4 cs
  let (month, cs) ← pair? 1 12 (← drop? '-' cs)
  let (_, cs) ← pair? 1 (daysOf year month) (← drop? '-' cs)
  return cs

/-- Drops a time of day: hours, minutes, seconds (60 for a leap second) and maybe a fraction. -/
def dropTime? (cs : List Char) : Option (List Char) := do
  let (_, cs) ← pair? 0 23 cs
  let (_, cs) ← pair? 0 59 (← drop? ':' cs)
  let (_, cs) ← pair? 0 60 (← drop? ':' cs)
  match cs with
  | '.' :: rest =>
    if (rest.takeWhile Char.isDigit).isEmpty then none else return rest.dropWhile Char.isDigit
  | cs => return cs

/-- Whether a text is nothing or an offset from universal time. -/
def isOffset (cs : List Char) : Bool :=
  match cs with
  | [] => true
  | c :: rest =>
    if c = 'Z' ∨ c = 'z' then rest.isEmpty
    else if c = '+' ∨ c = '-' then
      (do
        let (_, rest) ← pair? 0 23 rest
        let (_, rest) ← pair? 0 59 (← drop? ':' rest)
        return rest.isEmpty).getD false
    else false

/-- Whether a text is a time of day with or without an offset. -/
def isOffsetTime (cs : List Char) : Bool := ((dropTime? cs).map isOffset).getD false

/-- Whether a text is a date. -/
def isDate (cs : List Char) : Bool := dropDate? cs = some []

/-- Whether a text is a date, a time of day, or a date and a time joined by the letter T. -/
def isDatetime (cs : List Char) : Bool :=
  dropTime? cs = some [] ||
    match dropDate? cs with
    | some [] => true
    | some (c :: rest) => (c = 'T' || c = 't') && isOffsetTime rest
    | none => false

/-! ## Numbers -/

/-- The digits of a group, without the underscores between them. -/
def grouped? (isDigit : Char → Bool) (cs : List Char) : Option (List Char) :=
  let groups := pieces '_' cs
  if groups.all fun g => !g.isEmpty && g.all isDigit then some groups.flatten else none

/-- The digits of a decimal number without a leading zero. -/
def decimal? (cs : List Char) : Option (List Char) :=
  match grouped? Char.isDigit cs with
  | some ('0' :: _ :: _) => none
  | ds => ds

/-- Whether a character can belong to a group of decimal digits. -/
def isGroupChar (c : Char) : Bool := c.isDigit || c = '_'

/-- A whole number in the range of 64 bits. -/
def integer? (i : Int) : Option Value :=
  if Int64.minValue.toInt ≤ i ∧ i ≤ Int64.maxValue.toInt then some (.integer i) else none

/-- The value of digits in a base. -/
def based? (base : Nat) (cs : List Char) : Option Value := do
  let isDigit := fun c => ((Json.Quoted.hexValue? c).map fun d => decide (d < base)).getD false
  let ds ← grouped? isDigit cs
  integer? (ds.foldl (fun n c => base * n + (Json.Quoted.hexValue? c).getD 0) 0)

/-- A float that has the given sign, digits before and behind the point, and exponent. -/
def float? (negative : Bool) (whole fraction : List Char) (exponent : Int) : Option Value :=
  if negative ∨ Numeric.fitsExactly (Decimal.value (whole ++ fraction)) (exponent - fraction.length)
  then some .float
  else none

/-- Reads an exponent behind its mark. -/
def exponent? (cs : List Char) : Option Int :=
  let read := fun cs => (grouped? Char.isDigit cs).map fun ds => (Decimal.value ds : Int)
  match cs with
  | '-' :: rest => (read rest).map fun e => -e
  | '+' :: rest => read rest
  | rest => read rest

/-- Reads what follows the digits before the point of a number. -/
def tail? (negative : Bool) (whole rest : List Char) : Option Value :=
  let scaled := fun (fraction rest : List Char) =>
    match rest with
    | [] => if fraction.isEmpty then none else float? negative whole fraction 0
    | c :: rest =>
      if c = 'e' ∨ c = 'E' then (exponent? rest).bind (float? negative whole fraction) else none
  match rest with
  | [] =>
    let n : Int := Decimal.value whole
    integer? (if negative then -n else n)
  | '.' :: rest =>
    (grouped? Char.isDigit (rest.takeWhile isGroupChar)).bind fun fraction =>
      scaled fraction (rest.dropWhile isGroupChar)
  | rest => scaled [] rest

/-- Reads a decimal number or a special float behind its sign. -/
def unsigned? (negative : Bool) (cs : List Char) : Option Value :=
  if cs = ['i', 'n', 'f'] ∨ cs = ['n', 'a', 'n'] then some .float
  else
    (decimal? (cs.takeWhile isGroupChar)).bind fun whole =>
      tail? negative whole (cs.dropWhile isGroupChar)

/-- Reads a number. -/
def number? (cs : List Char) : Option Value :=
  match cs with
  | '0' :: 'x' :: rest => based? 16 rest
  | '0' :: 'o' :: rest => based? 8 rest
  | '0' :: 'b' :: rest => based? 2 rest
  | '-' :: rest => unsigned? true rest
  | '+' :: rest => unsigned? false rest
  | rest => unsigned? false rest

/-! ## Words -/

/-- The value that a word is. -/
def ofWord? (cs : List Char) : Option Value :=
  if cs = ['t', 'r', 'u', 'e'] then some (.boolean true)
  else if cs = ['f', 'a', 'l', 's', 'e'] then some (.boolean false)
  else if isDatetime cs then some .datetime
  else number? cs

/-- Reads a word, or a date and a time with one blank between them; gives the value and what
    follows. -/
def read? (cs : List Char) : Option (Value × List Char) :=
  let word := cs.takeWhile isWordChar
  let rest := cs.dropWhile isWordChar
  match isDate word, rest with
  | true, ' ' :: more =>
    let time := more.takeWhile isWordChar
    if time.isEmpty then some (.datetime, rest)
    else if isOffsetTime time then some (.datetime, more.dropWhile isWordChar)
    else none
  | _, _ => (ofWord? word).map fun v => (v, rest)

end LoopLowering.Toml.Scalar
