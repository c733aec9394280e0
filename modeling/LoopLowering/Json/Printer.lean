/-
  Writing JSON, in two layouts of the same tokens.

  1.  `tokens j` is the one list of tokens that spells the value `j`.  It is made from the back, by
      `tokensBefore`, which puts the tokens of a value before those that follow it.
  2.  The COMPACT layout puts the tokens side by side.
  3.  The PRETTY layout puts every item and field on a line of its own, indented by two blanks for
      each bracket around it, with one blank behind a colon; an empty array or object stays `[]` or
      a pair of braces.

  Both layouts are lists of pieces, a piece being a token or a run of blanks.  That the two spell the
  same value is then visible before any character is written: they have the same tokens.

  A text is written character by character; `toList_compactText` and `toList_prettyText` say that it has
  the characters of its layout.
-/
import LoopLowering.Json.Token

namespace LoopLowering.Json

/-! ## 1. Tokens of a value -/

mutual

/-- The tokens that spell a value, before the tokens `rest`. -/
def tokensBefore (rest : List Token) : Json → List Token
  | .null => .null :: rest
  | .bool b => .bool b :: rest
  | .number n => .number n :: rest
  | .string s => .string s :: rest
  | .array items => .openArray :: itemTokensBefore (.closeArray :: rest) items
  | .object fields => .openObject :: fieldTokensBefore (.closeObject :: rest) fields

/-- The tokens of the items of an array, commas between them, before the tokens `rest`. -/
def itemTokensBefore (rest : List Token) : List Json → List Token
  | [] => rest
  | v :: others =>
    match others with
    | [] => tokensBefore rest v
    | next :: others => tokensBefore (.comma :: itemTokensBefore rest (next :: others)) v

/-- The tokens of the fields of an object, commas between them, before the tokens `rest`. -/
def fieldTokensBefore (rest : List Token) : List (Option String × Json) → List Token
  | [] => rest
  | (key, v) :: others =>
    match others with
    | [] => .string key :: .colon :: tokensBefore rest v
    | next :: others =>
      .string key :: .colon :: tokensBefore (.comma :: fieldTokensBefore rest (next :: others)) v

end

/-- The tokens that spell a value. -/
def tokens (j : Json) : List Token := tokensBefore [] j

/-! ## 2. Layouts -/

/-- A token or a run of blanks. -/
inductive Piece where
  | token (t : Token)
  | blank (cs : List Char)
  deriving DecidableEq, Repr

/-- The characters of a piece. -/
def Piece.text : Piece → List Char
  | .token t => t.text
  | .blank cs => cs

/-- A new line, indented for `depth` brackets. -/
def newLine (depth : Nat) : Piece := .blank ('\n' :: List.replicate (2 * depth) ' ')

mutual

/-- The pretty layout of a value that stands inside `depth` brackets. -/
def pretty (depth : Nat) : Json → List Piece
  | .array (v :: rest) =>
    .token .openArray :: prettyItems (depth + 1) (v :: rest) ++
      [newLine depth, .token .closeArray]
  | .object (f :: rest) =>
    .token .openObject :: prettyFields (depth + 1) (f :: rest) ++
      [newLine depth, .token .closeObject]
  | .array [] => [.token .openArray, .token .closeArray]
  | .object [] => [.token .openObject, .token .closeObject]
  | .null => [.token .null]
  | .bool b => [.token (.bool b)]
  | .number n => [.token (.number n)]
  | .string s => [.token (.string s)]

/-- The items of an array, each on a line of its own. -/
def prettyItems (depth : Nat) : List Json → List Piece
  | [] => []
  | v :: rest =>
    match rest with
    | [] => newLine depth :: pretty depth v
    | next :: others =>
      newLine depth :: pretty depth v ++ .token .comma :: prettyItems depth (next :: others)

/-- The fields of an object, each on a line of its own. -/
def prettyFields (depth : Nat) : List (Option String × Json) → List Piece
  | [] => []
  | (key, v) :: rest =>
    let field := newLine depth :: .token (.string key) :: .token .colon :: .blank [' '] ::
      pretty depth v
    match rest with
    | [] => field
    | next :: others => field ++ .token .comma :: prettyFields depth (next :: others)

end

/-! ## 3. Texts -/

/-- The characters of the compact layout. -/
def compactChars (j : Json) : List Char := (tokens j).flatMap Token.text

/-- The characters of the pretty layout. -/
def prettyChars (j : Json) : List Char := (pretty 0 j).flatMap Piece.text

/-- The text that has the characters of the pieces one after the other. -/
def write {α : Type} (chars : α → List Char) (pieces : List α) : String :=
  pieces.foldl (fun text piece => (chars piece).foldl String.push text) ""

/-- The compact text of a value. -/
def compactText (j : Json) : String := write Token.text (tokens j)

/-- The pretty text of a value. -/
def prettyText (j : Json) : String := write Piece.text (pretty 0 j)

theorem toList_foldl_push (cs : List Char) (s : String) :
    (cs.foldl String.push s).toList = s.toList ++ cs := by
  induction cs generalizing s with
  | nil => simp
  | cons c cs ih => simp [ih]

/-- Writing loses nothing and adds nothing. -/
theorem toList_write {α : Type} (chars : α → List Char) (pieces : List α) :
    (write chars pieces).toList = pieces.flatMap chars := by
  have onto : ∀ (s : String), (pieces.foldl (fun text piece => (chars piece).foldl String.push text)
      s).toList = s.toList ++ pieces.flatMap chars := by
    induction pieces with
    | nil => simp
    | cons piece pieces ih => simp [ih, toList_foldl_push]
  simpa [write] using onto ""

@[simp] theorem toList_compactText (j : Json) : j.compactText.toList = j.compactChars :=
  toList_write Token.text (tokens j)

@[simp] theorem toList_prettyText (j : Json) : j.prettyText.toList = j.prettyChars :=
  toList_write Piece.text (pretty 0 j)

end LoopLowering.Json
