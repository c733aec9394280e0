/-
  Reading TOML: from a text to the table of its fields.

  The layers, from the inside out:

    1.  blanks, comments and the ends of lines;
    2.  keys: bare or quoted, joined by dots;
    3.  values: strings, words, arrays and tables between braces;
    4.  statements: a field or a header, one on a line;
    5.  the file: statements one after the other, filed by `Toml.Draft`.

  A line break is a line feed, or a carriage return and a line feed; the text is brought to the first
  form before anything else is read, and a carriage return that is left over is an error everywhere.
  A mark for the byte order in front of the text is dropped.

  Layer 3 is one recursion with two measures: `room` bounds how many arrays and braces may be open
  inside each other, and `fuel` bounds the steps, of which each consumes a character.
-/
import LoopLowering.Toml.Quoted
import LoopLowering.Toml.Scalar

namespace LoopLowering.Toml.Reader

/-! ## 1. Blanks -/

/-- Whether a character is a blank inside a line. -/
def isSpace (c : Char) : Bool := c = ' ' || c = '\t'

/-- Drops the blanks of a line. -/
def skipSpace (cs : List Char) : List Char := cs.dropWhile isSpace

/-- Whether a character may stand in a comment. -/
def isCommentChar (c : Char) : Bool := c = '\t' || (0x20 ≤ c.toNat && c.toNat ≠ 0x7F)

/-- Drops a comment, if there is one. -/
def skipComment (cs : List Char) : List Char :=
  match cs with
  | '#' :: rest => rest.dropWhile isCommentChar
  | cs => cs

/-- Drops the rest of a line: blanks, maybe a comment, and the line break or the end of the text. -/
def endLine? (cs : List Char) : Option (List Char) :=
  match skipComment (skipSpace cs) with
  | [] => some []
  | '\n' :: rest => some rest
  | _ => none

/-- Drops blanks, line breaks and comments; `inside` says whether a comment is open.  What stops inside a
    comment is its first bad character, which no value begins with. -/
def skipFrom (inside : Bool) : List Char → List Char
  | [] => []
  | c :: cs =>
    if c = '\n' then skipFrom false cs
    else if inside then if isCommentChar c then skipFrom true cs else c :: cs
    else if c = '#' then skipFrom true cs
    else if isSpace c then skipFrom false cs
    else c :: cs

/-- Drops blanks, line breaks and comments. -/
def skipAll (cs : List Char) : List Char := skipFrom false cs

/-! ## 2. Keys -/

/-- How many arrays and braces may be open inside each other, and how many keys dots may join. -/
def maxNesting : Nat := 79

/-- Whether a character may stand in a bare key. -/
def isKeyChar (c : Char) : Bool := c.isAlphanum || c = '_' || c = '-'

/-- Reads one key. -/
def simpleKey? (cs : List Char) : Option (String × List Char) :=
  match Quoted.readLine? cs with
  | some (text, rest) => some (String.ofList text, rest)
  | none =>
    let bare := cs.takeWhile isKeyChar
    if bare.isEmpty then none else some (String.ofList bare, cs.dropWhile isKeyChar)

/-- Reads at most `n` keys joined by dots, with blanks around each: the path and the last key. -/
def key? : Nat → List Char → Option ((List String × String) × List Char)
  | 0, _ => none
  | n + 1, cs => do
    let (key, rest) ← simpleKey? (skipSpace cs)
    match skipSpace rest with
    | '.' :: rest => do
      let ((path, last), rest) ← key? n rest
      return ((key :: path, last), rest)
    | rest => return (([], key), rest)

/-! ## 3. Values -/

mutual

/-- Reads a value. -/
def value? (room : Nat) : Nat → List Char → Option (Value × List Char)
  | 0, _ => none
  | fuel + 1, cs =>
    match cs with
    | '[' :: rest =>
      match room with
      | 0 => none
      | room + 1 => items? room fuel [] (skipAll rest)
    | '\x7b' :: rest =>
      match room with
      | 0 => none
      | room + 1 =>
        -- Unlike an array, a table between braces stays on its line.
        match skipSpace rest with
        | '\x7d' :: rest => some (.table .inline [], rest)
        | rest => entries? room fuel [] rest
    | '"' :: _ => (Quoted.read? cs).map fun (s, rest) => (.string (String.ofList s), rest)
    | '\'' :: _ => (Quoted.read? cs).map fun (s, rest) => (.string (String.ofList s), rest)
    | cs => Scalar.read? cs

/-- Reads the items of an array behind its bracket or a comma, up to the closing bracket; `done` holds
    the items so far, latest first. -/
def items? (room : Nat) : Nat → List Value → List Char → Option (Value × List Char)
  | 0, _, _ => none
  | fuel + 1, done, cs =>
    match cs with
    -- The array is empty, or its last item has a comma behind it.
    | ']' :: rest => some (.array done.reverse, rest)
    | cs => do
      let (v, rest) ← value? room fuel cs
      match skipAll rest with
      | ',' :: rest => items? room fuel (v :: done) (skipAll rest)
      | ']' :: rest => return (.array (v :: done).reverse, rest)
      | _ => none

/-- Reads the fields of a table behind its brace or a comma, up to the closing brace; `done` holds the
    fields so far, latest first. -/
def entries? (room : Nat) :
    Nat → List (List String × String × Value) → List Char → Option (Value × List Char)
  | 0, _, _ => none
  | fuel + 1, done, cs => do
    let ((path, key), rest) ← key? maxNesting cs
    match rest with
    | '=' :: rest => do
      let (v, rest) ← value? room fuel (skipSpace rest)
      match skipSpace rest with
      -- Behind this comma another field has to follow.
      | ',' :: rest => entries? room fuel ((path, key, v) :: done) rest
      | '\x7d' :: rest => return (← inlineTable? ((path, key, v) :: done).reverse, rest)
      | _ => none
    | _ => none

end

/-! ## 4. Statements -/

/-- Drops two closing brackets and the rest of the line behind a double header. -/
def endElement? (cs : List Char) : Option (List Char) :=
  match cs with
  | ']' :: ']' :: rest => endLine? rest
  | _ => none

/-- Drops a closing bracket and the rest of the line behind a header. -/
def endTable? (cs : List Char) : Option (List Char) :=
  match cs with
  | ']' :: rest => endLine? rest
  | _ => none

/-- Reads a field and the rest of its line. -/
def field? (d : Draft) (cs : List Char) : Option (Draft × List Char) := do
  let ((path, key), rest) ← key? maxNesting cs
  match rest with
  | '=' :: rest => do
    let (v, rest) ← value? maxNesting (rest.length + 1) (skipSpace rest)
    return (← d.field? path key v, ← endLine? rest)
  | _ => none

/-- Reads one statement from its first character on. -/
def statement? (d : Draft) (cs : List Char) : Option (Draft × List Char) :=
  match cs with
  | '\n' :: rest => some (d, rest)
  | '#' :: _ => do return (d, ← endLine? cs)
  | '[' :: '[' :: rest => do
    let ((path, key), rest) ← key? maxNesting rest
    let rest ← endElement? rest
    return (← d.openElement? path key, rest)
  | '[' :: rest => do
    let ((path, key), rest) ← key? maxNesting rest
    let rest ← endTable? rest
    return (← d.openTable? path key, rest)
  | cs => field? d cs

/-! ## 5. Files -/

/-- Reads statements up to the end of the text. -/
def statements? : Nat → Draft → List Char → Option Draft
  | 0, _, _ => none
  | fuel + 1, d, cs =>
    match skipSpace cs with
    | [] => some d
    | cs => do
      let (d, rest) ← statement? d cs
      statements? fuel d rest

/-- The text with every line break written as a line feed; `done` holds it latest first. -/
def unifyFrom (done : List Char) : List Char → List Char
  | [] => done.reverse
  | '\n' :: rest =>
    match done with
    -- The carriage return was taken already and is dropped.
    | '\r' :: done => unifyFrom ('\n' :: done) rest
    | done => unifyFrom ('\n' :: done) rest
  | c :: rest => unifyFrom (c :: done) rest

/-- The text without the mark for the byte order and with line feeds for line breaks. -/
def unify (cs : List Char) : List Char :=
  match cs with
  | '\ufeff' :: rest => unifyFrom [] rest
  | cs => unifyFrom [] cs

end Reader

/-- Reads the fields of a file. -/
def ofChars? (cs : List Char) : Option Fields := do
  let text := Reader.unify cs
  (← Reader.statements? (text.length + 1) {} text).close?

/-- Reads the fields of a file. -/
def read? (s : String) : Option Fields := ofChars? s.toList

end LoopLowering.Toml
