/-
  Quoted JSON text: what stands between the quotes of a JSON string.

  1.  `escape` writes a text: a quote, a backslash and the control characters below U+0020 are
      escaped, by name if they have one; everything else stands for itself.
  2.  `unescape?` reads ANY spelling that RFC 8259 allows.  It works in two strides, each a fold of
      a small machine: `marks?` resolves the backslashes into characters and UTF-16 units, then
      `join?` joins surrogate pairs.

  The result has two layers.  The outer one is missing when the spelling is malformed; the inner one
  is missing when the spelling is fine but names half of a surrogate pair, so that no text has it.
  The law is `unescape?_escape`: reading undoes writing.
-/
namespace LoopLowering.Json.Quoted

/-! ## 1. Writing -/

/-- The escape of one character. -/
def escapeChar (c : Char) : List Char :=
  if c = '"' then ['\\', '"']
  else if c = '\\' then ['\\', '\\']
  else if c = '\x08' then ['\\', 'b']
  else if c = '\x0c' then ['\\', 'f']
  else if c = '\n' then ['\\', 'n']
  else if c = '\r' then ['\\', 'r']
  else if c = '\t' then ['\\', 't']
  else if c.toNat < 0x20 then
    ['\\', 'u', '0', '0', (c.toNat / 16).digitChar, (c.toNat % 16).digitChar]
  else [c]

/-- The escape of a text. -/
def escape (cs : List Char) : List Char := cs.flatMap escapeChar

/-! ## 2. Reading: backslashes -/

/-- What one spelling stands for before surrogates are joined. -/
inductive Mark where
  /-- A character, written raw or by a named escape. -/
  | char (c : Char)
  /-- A UTF-16 unit, written by its four hexadecimal digits. -/
  | unit (u : Nat)
  deriving DecidableEq, Repr

/-- The value of a hexadecimal digit of either case. -/
def hexValue? (c : Char) : Option Nat :=
  if c.isDigit then some (c.toNat - '0'.toNat)
  else if 'a' ≤ c ∧ c ≤ 'f' then some (c.toNat - 'a'.toNat + 10)
  else if 'A' ≤ c ∧ c ≤ 'F' then some (c.toNat - 'A'.toNat + 10)
  else none

/-- The character of a one-letter escape. -/
def named? (c : Char) : Option Char :=
  match c with
  | '"' => some '"'
  | '\\' => some '\\'
  | '/' => some '/'
  | 'b' => some '\x08'
  | 'f' => some '\x0c'
  | 'n' => some '\n'
  | 'r' => some '\r'
  | 't' => some '\t'
  | _ => none

/-- Where in a spelling the reader stands. -/
inductive Place where
  /-- Between two marks. -/
  | plain
  /-- Behind a backslash. -/
  | escape
  /-- Inside a numeric escape, with `left + 1` digits to come and the value so far. -/
  | hex (left value : Nat)
  deriving DecidableEq, Repr

/-- One character more; the marks are held latest first. -/
def markStep : List Mark × Place → Char → Option (List Mark × Place)
  | (marks, .plain), c =>
    if c = '\\' then some (marks, .escape)
    else if c.toNat < 0x20 ∨ c = '"' then none
    else some (.char c :: marks, .plain)
  | (marks, .escape), c =>
    if c = 'u' then some (marks, .hex 3 0)
    else (named? c).map fun named => (.char named :: marks, .plain)
  | (marks, .hex 0 value), c => (hexValue? c).map fun d => (.unit (16 * value + d) :: marks, .plain)
  | (marks, .hex (left + 1) value), c => (hexValue? c).map fun d => (marks, .hex left (16 * value + d))

/-- The marks of a spelling. -/
def marks? (cs : List Char) : Option (List Mark) :=
  match cs.foldlM markStep ([], .plain) with
  | some (marks, .plain) => some marks.reverse
  | _ => none

/-! ## 2. Reading: surrogates -/

/-- The code point of a high and a low surrogate. -/
def pair? (high low : Nat) : Option Char :=
  if 0xD800 ≤ high ∧ high ≤ 0xDBFF ∧ 0xDC00 ≤ low ∧ low ≤ 0xDFFF then
    some (Char.ofNat (0x10000 + (high - 0xD800) * 0x400 + (low - 0xDC00)))
  else none

/-- One mark more; a surrogate waits for the next unit, and the characters are held latest first. -/
def joinStep : List Char × Option Nat → Mark → Option (List Char × Option Nat)
  | (chars, none), .char c => some (c :: chars, none)
  | (chars, none), .unit u =>
    if 0xD800 ≤ u ∧ u ≤ 0xDFFF then some (chars, some u) else some (Char.ofNat u :: chars, none)
  -- Behind a surrogate only its partner will do, and a raw character is none.
  | (chars, some high), .unit u => (pair? high u).map fun c => (c :: chars, none)
  | (_, some _), .char _ => none

/-- The characters of a list of marks, unless a surrogate lacks its partner. -/
def join? (marks : List Mark) : Option (List Char) :=
  match marks.foldlM joinStep ([], none) with
  | some (chars, none) => some chars.reverse
  | _ => none

/-- Reads what stands between two quotes. -/
def unescape? (cs : List Char) : Option (Option String) :=
  (marks? cs).map fun marks => (join? marks).map String.ofList

/-! ## Reading undoes writing -/

/-- The one mark of each character of a written text. -/
def written (c : Char) : Mark :=
  if c = '\x08' ∨ c = '\x0c' ∨ c = '\n' ∨ c = '\r' ∨ c = '\t' then .char c
  else if c.toNat < 0x20 then .unit c.toNat
  else .char c

theorem hexValue?_digitChar {d : Nat} (h : d < 16) : hexValue? d.digitChar = some d := by
  have : ∀ d : Fin 16, hexValue? d.val.digitChar = some d.val := by decide
  exact this ⟨d, h⟩

theorem foldlM_escapeChar (marks : List Mark) (c : Char) :
    (escapeChar c).foldlM markStep (marks, .plain) = some (written c :: marks, .plain) := by
  by_cases h1 : c = '"'
  · subst h1; rfl
  by_cases h2 : c = '\\'
  · subst h2; rfl
  by_cases h3 : c = '\x08'
  · subst h3; rfl
  by_cases h4 : c = '\x0c'
  · subst h4; rfl
  by_cases h5 : c = '\n'
  · subst h5; rfl
  by_cases h6 : c = '\r'
  · subst h6; rfl
  by_cases h7 : c = '\t'
  · subst h7; rfl
  by_cases h8 : c.toNat < 0x20
  · have hi := hexValue?_digitChar (show c.toNat / 16 < 16 by omega)
    have lo := hexValue?_digitChar (show c.toNat % 16 < 16 by omega)
    have zero : hexValue? '0' = some 0 := by decide
    have value : 16 * (c.toNat / 16) + c.toNat % 16 = c.toNat := by omega
    simp [escapeChar, written, markStep, h1, h2, h3, h4, h5, h6, h7, h8, hi, lo, zero, value]
  · simp [escapeChar, written, markStep, h1, h2, h3, h4, h5, h6, h7, h8]

theorem foldlM_escape (marks : List Mark) (cs : List Char) :
    (escape cs).foldlM markStep (marks, .plain) = some ((cs.map written).reverse ++ marks, .plain) := by
  induction cs generalizing marks with
  | nil => rfl
  | cons c cs ih =>
    have he : escape (c :: cs) = escapeChar c ++ escape cs := by simp [escape]
    rw [he, List.foldlM_append, foldlM_escapeChar]
    simp [ih]

theorem marks?_escape (cs : List Char) : marks? (escape cs) = some (cs.map written) := by
  simp [marks?, foldlM_escape]

theorem joinStep_written (chars : List Char) (c : Char) :
    joinStep (chars, none) (written c) = some (c :: chars, none) := by
  unfold written
  split
  · rfl
  · split
    · rename_i h
      have hs : ¬ (0xD800 ≤ c.toNat ∧ c.toNat ≤ 0xDFFF) := by omega
      simp [joinStep, hs]
    · rfl

theorem join?_map_written (cs : List Char) : join? (cs.map written) = some cs := by
  have fold : ∀ chars, (cs.map written).foldlM joinStep (chars, none) =
      some (cs.reverse ++ chars, none) := by
    induction cs with
    | nil => intro chars; rfl
    | cons c cs ih => intro chars; simp [joinStep_written, ih]
  simp [join?, fold]

/-- Reading a written text gives the text. -/
theorem unescape?_escape (cs : List Char) : unescape? (escape cs) = some (some (String.ofList cs)) := by
  simp [unescape?, marks?_escape, join?_map_written]

end LoopLowering.Json.Quoted
