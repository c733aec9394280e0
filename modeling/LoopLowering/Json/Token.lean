/-
  JSON tokens: the words of a JSON text.

  1.  A token has a text (`Token.text`), and a text has a list of tokens (`tokens?`).
  2.  `tokens?` is a fold of a machine that looks at one character at a time.  Between tokens it
      skips blanks and takes the six punctuation marks at once; a WORD (a literal name or a number)
      is collected up to the first character that cannot belong to one; a quoted text is collected
      up to its closing quote.  What was collected is then read as a whole.

  The machine never looks back and never runs out: it does one step per character.
-/
import LoopLowering.Json.Basic
import LoopLowering.Json.Quoted
import LoopLowering.Text.Decimal

namespace LoopLowering.Json

open LoopLowering.Text

/-! ## Numbers -/

/-- The text of a number: digits, then an exponent if it has one. -/
def Number.text : Number → List Char
  | .whole negative magnitude => (if negative then ['-'] else []) ++ Decimal.digits magnitude
  | .scaled negative coefficient exponent =>
    (if negative then ['-'] else []) ++ Decimal.digits coefficient ++ 'e' :: Decimal.signed exponent

/-- Reads what follows the digits `whole` and `fraction` of a number: nothing or an exponent. -/
def Number.scale? (negative : Bool) (whole fraction rest : List Char) : Option Number :=
  let number := fun (e : Int) =>
    Number.scaled negative (Decimal.value (whole ++ fraction)) (e - fraction.length)
  match rest with
  | [] => some (number 0)
  | c :: rest => if c = 'e' ∨ c = 'E' then (Decimal.signed? rest).map number else none

/-- Reads a number without its sign: digits without a leading zero, then a fraction, an exponent,
    both or neither. -/
def Number.unsigned? (negative : Bool) (cs : List Char) : Option Number :=
  let whole := cs.takeWhile Char.isDigit
  let rest := cs.dropWhile Char.isDigit
  if whole = [] ∨ (whole.head? = some '0' ∧ 1 < whole.length) then none
  else
    match rest with
    | [] => some (.whole negative (Decimal.value whole))
    | '.' :: rest =>
      let fraction := rest.takeWhile Char.isDigit
      if fraction = [] then none
      else scale? negative whole fraction (rest.dropWhile Char.isDigit)
    | rest => scale? negative whole [] rest

/-- Reads a number. -/
def Number.ofChars? (cs : List Char) : Option Number :=
  match cs with
  | '-' :: rest => unsigned? true rest
  | rest => unsigned? false rest

/-! ## Tokens -/

/-- A word of JSON. -/
inductive Token where
  | openArray
  | closeArray
  | openObject
  | closeObject
  | colon
  | comma
  | null
  | bool (b : Bool)
  | number (n : Number)
  | string (s : Option String)
  deriving DecidableEq, Repr

/-- The text of a string between its quotes; a string that no text has is written as the escape of
    one surrogate. -/
def stringText : Option String → List Char
  | some s => Quoted.escape s.toList
  | none => ['\\', 'u', 'd', '8', '0', '0']

/-- The text of a token. -/
def Token.text : Token → List Char
  | .openArray => ['[']
  | .closeArray => [']']
  | .openObject => ['\x7b']
  | .closeObject => ['\x7d']
  | .colon => [':']
  | .comma => [',']
  | .null => ['n', 'u', 'l', 'l']
  | .bool true => ['t', 'r', 'u', 'e']
  | .bool false => ['f', 'a', 'l', 's', 'e']
  | .number n => n.text
  | .string s => '"' :: stringText s ++ ['"']

/-- The blanks of JSON, a narrower set than Unicode's. -/
def isSpace (c : Char) : Bool := c = ' ' ∨ c = '\n' ∨ c = '\t' ∨ c = '\r'

/-- The punctuation mark that a character is. -/
def Token.ofMark? (c : Char) : Option Token :=
  match c with
  | '[' => some .openArray
  | ']' => some .closeArray
  | '\x7b' => some .openObject
  | '\x7d' => some .closeObject
  | ':' => some .colon
  | ',' => some .comma
  | _ => none

/-- Whether a character can belong to a literal name or a number. -/
def isWordChar (c : Char) : Bool := c.isAlphanum || c = '+' || c = '-' || c = '.'

/-- The token that a word is. -/
def Token.ofWord? (cs : List Char) : Option Token :=
  if cs = ['n', 'u', 'l', 'l'] then some .null
  else if cs = ['t', 'r', 'u', 'e'] then some (.bool true)
  else if cs = ['f', 'a', 'l', 's', 'e'] then some (.bool false)
  else (Number.ofChars? cs).map .number

/-! ## The machine -/

/-- What the machine is in the middle of; collected characters are held latest first. -/
inductive Scan where
  /-- Between tokens. -/
  | between
  /-- Inside a word. -/
  | word (read : List Char)
  /-- Inside a quoted text. -/
  | quoted (read : List Char)
  /-- Inside a quoted text, behind a backslash. -/
  | escaped (read : List Char)
  deriving DecidableEq, Repr

/-- A character at the beginning of a token. -/
def Scan.start (done : List Token) (c : Char) : Option (List Token × Scan) :=
  if isSpace c then some (done, .between)
  else if c = '"' then some (done, .quoted [])
  else if isWordChar c then some (done, .word [c])
  else (Token.ofMark? c).map fun t => (t :: done, .between)

/-- One character more; the finished tokens are held latest first. -/
def Scan.step : List Token × Scan → Char → Option (List Token × Scan)
  | (done, .between), c => start done c
  | (done, .word read), c =>
    if isWordChar c then some (done, .word (c :: read))
    else
      -- The word is complete, and `c` begins what comes next.
      match Token.ofWord? read.reverse with
      | some t => start (t :: done) c
      | none => none
  | (done, .quoted read), c =>
    if c = '"' then (Quoted.unescape? read.reverse).map fun s => (.string s :: done, .between)
    else if c = '\\' then some (done, .escaped (c :: read))
    else some (done, .quoted (c :: read))
  -- Whatever is escaped, even a quote, belongs to the text.
  | (done, .escaped read), c => some (done, .quoted (c :: read))

/-- The tokens at the end of the text. -/
def Scan.finish : List Token × Scan → Option (List Token)
  | (done, .between) => some done.reverse
  | (done, .word read) => (Token.ofWord? read.reverse).map fun t => (t :: done).reverse
  | _ => none

/-- The tokens of a text. -/
def tokens? (cs : List Char) : Option (List Token) :=
  (cs.foldlM Scan.step ([], .between)).bind Scan.finish

end LoopLowering.Json
