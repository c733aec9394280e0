/-
  Quoted TOML text: the four kinds of strings.

  A string is BASIC (between `"`, with escapes) or LITERAL (between `'`, without), and each kind has a
  single-line form and a multi-line form with three quotes on each side.  The four forms differ in
  three respects only, so they are one record (`Style`) and one machine reads them all:

    1.  which quote delimits, and whether one or three of it;
    2.  whether line breaks may occur;
    3.  whether a backslash escapes.

  In a multi-line string a run of one or two quotes is text; the run that ends the string may hold two
  quotes of text in front of its three.  A backslash at the end of a line swallows all blanks and line
  breaks up to the next character.

  The machine reads texts whose line breaks are line feeds, and it is shown the characters behind the
  opening delimiter one by one.
-/
import LoopLowering.Json.Quoted

namespace LoopLowering.Toml.Quoted

/-! ## Styles -/

/-- One of the forms of a string. -/
structure Style where
  /-- The quote that delimits. -/
  quote : Char
  /-- Whether three quotes delimit, so that line breaks may occur. -/
  multiline : Bool
  /-- Whether a backslash escapes. -/
  escapes : Bool
  deriving DecidableEq, Repr

/-- The single-line form with escapes. -/
def basic : Style := ⟨'"', false, true⟩

/-- The single-line form without escapes. -/
def literal : Style := ⟨'\'', false, false⟩

/-- The multi-line form with escapes. -/
def multiBasic : Style := ⟨'"', true, true⟩

/-- The multi-line form without escapes. -/
def multiLiteral : Style := ⟨'\'', true, false⟩

/-- The delimiter of a style. -/
def Style.delimiter (s : Style) : List Char := List.replicate (if s.multiline then 3 else 1) s.quote

/-- Whether a character is a control character that never stands for itself; the tab and the line
    feed have rules of their own. -/
def isControl (c : Char) : Bool := (c.toNat < 0x20 && c ≠ '\t' && c ≠ '\n') || c.toNat = 0x7F

/-! ## Reading -/

/-- Where in a string the reader stands. -/
inductive Place where
  /-- Between two characters of the text. -/
  | plain
  /-- Behind `n + 1` quotes of a multi-line string. -/
  | quotes (n : Nat)
  /-- Behind a backslash. -/
  | escape
  /-- Inside a numeric escape, with `left + 1` digits to come and the value so far. -/
  | hex (left value : Nat)
  /-- Behind a backslash and blanks, before the line break that must follow. -/
  | gap
  /-- Behind a line break that a backslash swallows. -/
  | skip
  deriving DecidableEq, Repr

/-- What one more character leads to; the text is held latest first. -/
inductive Next where
  /-- The string goes on. -/
  | more (text : List Char) (place : Place)
  /-- The string ended with the character. -/
  | ended (text : List Char)
  /-- The string ended before the character. -/
  | endedBefore (text : List Char)
  /-- No string begins like this. -/
  | refused
  deriving DecidableEq, Repr

/-- The character of a one-letter escape. -/
def named? (c : Char) : Option Char :=
  match c with
  | 'b' => some '\x08'
  | 't' => some '\t'
  | 'n' => some '\n'
  | 'f' => some '\x0c'
  | 'r' => some '\r'
  | '"' => some '"'
  | '\\' => some '\\'
  | _ => none

/-- The character of a code point; surrogates and numbers out of range have none. -/
def scalar? (n : Nat) : Option Char := if n.isValidChar then some (Char.ofNat n) else none

/-- A character that stands where text may stand. -/
def plainStep (s : Style) (text : List Char) (c : Char) : Next :=
  if c = s.quote then (if s.multiline then .more text (.quotes 0) else .ended text)
  else if c = '\\' ∧ s.escapes then .more text .escape
  else if c = '\n' then (if s.multiline then .more (c :: text) .plain else .refused)
  else if isControl c then .refused
  else .more (c :: text) .plain

/-- One character more. -/
def step (s : Style) (text : List Char) (place : Place) (c : Char) : Next :=
  match place with
  | .plain => plainStep s text c
  | .quotes n =>
    if c = s.quote then
      if n = 3 then .ended (s.quote :: s.quote :: text) else .more text (.quotes (n + 1))
    else if 2 ≤ n then .endedBefore (List.replicate (n - 2) s.quote ++ text)
    else plainStep s (List.replicate (n + 1) s.quote ++ text) c
  | .escape =>
    if c = 'u' then .more text (.hex 3 0)
    else if c = 'U' then .more text (.hex 7 0)
    else if s.multiline ∧ (c = ' ' ∨ c = '\t') then .more text .gap
    else if s.multiline ∧ c = '\n' then .more text .skip
    else
      match named? c with
      | some named => .more (named :: text) .plain
      | none => .refused
  | .hex left value =>
    match Json.Quoted.hexValue? c with
    | none => .refused
    | some d =>
      match left with
      | left + 1 => .more text (.hex left (16 * value + d))
      | 0 =>
        match scalar? (16 * value + d) with
        | some r => .more (r :: text) .plain
        | none => .refused
  | .gap =>
    if c = '\n' then .more text .skip
    else if c = ' ' ∨ c = '\t' then .more text .gap
    else .refused
  | .skip =>
    if c = '\n' ∨ c = ' ' ∨ c = '\t' then .more text .skip
    else plainStep s text c

/-- Reads a string behind its opening delimiter; gives its text and what follows the string. -/
def readFrom (s : Style) (text : List Char) (place : Place) :
    List Char → Option (List Char × List Char)
  | [] =>
    match place with
    | .quotes n => if 2 ≤ n then some ((List.replicate (n - 2) s.quote ++ text).reverse, []) else none
    | _ => none
  | c :: rest =>
    match step s text place c with
    | .more text place => readFrom s text place rest
    | .ended text => some (text.reverse, rest)
    | .endedBefore text => some (text.reverse, c :: rest)
    | .refused => none

/-- Reads a string behind its opening delimiter; a line break directly behind a triple quote is not
    part of the text. -/
def readBody (s : Style) (cs : List Char) : Option (List Char × List Char) :=
  match s.multiline, cs with
  | true, '\n' :: rest => readFrom s [] .plain rest
  | _, cs => readFrom s [] .plain cs

/-- Reads a string of one of the two given forms of a quote, behind its first quote. -/
def readEither (single multi : Style) (cs : List Char) : Option (List Char × List Char) :=
  match cs with
  | a :: b :: rest =>
    if a = single.quote ∧ b = single.quote then readBody multi rest else readBody single cs
  | cs => readBody single cs

/-- Reads a string of any form from its first character on. -/
def read? (cs : List Char) : Option (List Char × List Char) :=
  match cs with
  | '"' :: rest => readEither basic multiBasic rest
  | '\'' :: rest => readEither literal multiLiteral rest
  | _ => none

/-- Reads a single-line string from its first character on. -/
def readLine? (cs : List Char) : Option (List Char × List Char) :=
  match cs with
  | '"' :: rest => readBody basic rest
  | '\'' :: rest => readBody literal rest
  | _ => none

/-! ## Writing -/

/-- The length of the longest run of a character. -/
def longestRun (c : Char) : List Char → Nat → Nat → Nat
  | [], _, best => best
  | d :: rest, run, best =>
    if d = c then longestRun c rest (run + 1) (max best (run + 1)) else longestRun c rest 0 best

/-- The style a text is written in: the first of the four that holds it without an escape, else a
    basic string, with triple quotes if the text has a line break. -/
def styleOf (cs : List Char) : Style :=
  let control := cs.any isControl
  let backslash := cs.contains '\\'
  let newline := cs.contains '\n'
  let doubles := longestRun '"' cs 0 0
  let singles := longestRun '\'' cs 0 0
  if !control && !backslash && doubles = 0 && !newline then basic
  else if !control && singles = 0 && !newline then literal
  else if !control && !backslash && doubles ≤ 2 then multiBasic
  else if !control && singles ≤ 2 then multiLiteral
  else if newline then multiBasic
  else basic

/-- The four upper-case hexadecimal digits of a small number. -/
def hex4 (n : Nat) : List Char :=
  ['0', '0', (n / 16).digitChar.toUpper, (n % 16).digitChar.toUpper]

/-- Writes a text with escapes; `run` counts the quotes directly before, since the last escape. -/
def escapeFrom (s : Style) (run : Nat) : List Char → List Char
  | [] => []
  | c :: rest =>
    if c = '"' then
      if s.multiline ∧ run < 2 then '"' :: escapeFrom s (run + 1) rest
      else '\\' :: '"' :: escapeFrom s 0 rest
    else if c = '\\' then '\\' :: '\\' :: escapeFrom s 0 rest
    else if c = '\x08' then '\\' :: 'b' :: escapeFrom s 0 rest
    else if c = '\t' then '\\' :: 't' :: escapeFrom s 0 rest
    else if c = '\x0c' then '\\' :: 'f' :: escapeFrom s 0 rest
    else if c = '\r' then '\\' :: 'r' :: escapeFrom s 0 rest
    else if c = '\n' ∧ !s.multiline then '\\' :: 'n' :: escapeFrom s 0 rest
    else if isControl c then '\\' :: 'u' :: hex4 c.toNat ++ escapeFrom s 0 rest
    else c :: escapeFrom s 0 rest

/-- Writes a text in a style: a multi-line string of several lines begins on a line of its own. -/
def writeAs (s : Style) (cs : List Char) : List Char :=
  s.delimiter ++ (if s.multiline ∧ cs.contains '\n' then ['\n'] else []) ++
    (if s.escapes then escapeFrom s 0 cs else cs) ++ s.delimiter

/-- Writes a text as a string. -/
def write (cs : List Char) : List Char := writeAs (styleOf cs) cs

end LoopLowering.Toml.Quoted
