/-
  Reading JSON: from tokens to a value.

  The reader is a fold of a machine with a stack, so no depth of nesting is too deep for it; how deep
  a text may nest is decided by whoever uses the value.  At any time it

    1.  knows which arrays and objects stand open around it (`Frame`, the innermost first), and
    2.  waits for one kind of token (`Expect`).

  A finished value is handed to the innermost frame; without a frame it is the value of the text.
-/
import LoopLowering.Json.Token

namespace LoopLowering.Json

namespace Reader

/-- An open array or object with what it holds so far, latest first. -/
inductive Frame where
  | array (items : List Json)
  | object (fields : List (Option String × Json)) (key : Option String)
  deriving Inhabited

/-- What the reader waits for. -/
inductive Expect where
  /-- A value; in an array that holds nothing yet also the closing bracket. -/
  | value
  /-- The key of a field of an object that holds `fields`; if it holds none yet also the closing
      brace. -/
  | key (fields : List (Option String × Json))
  /-- The colon behind a key. -/
  | colon
  /-- A comma or the end of the innermost frame, which has not yet taken `v`. -/
  | next (v : Json)
  deriving Inhabited

/-- The frames that stand open, and what is waited for. -/
structure State where
  frames : List Frame
  expect : Expect
  deriving Inhabited

/-- Before the first token. -/
def State.start : State := ⟨[], .value⟩

/-- The beginning of a value. -/
def beginValue (frames : List Frame) : Token → Option State
  | .null => some ⟨frames, .next .null⟩
  | .bool b => some ⟨frames, .next (.bool b)⟩
  | .number n => some ⟨frames, .next (.number n)⟩
  | .string s => some ⟨frames, .next (.string s)⟩
  | .openArray => some ⟨.array [] :: frames, .value⟩
  | .openObject => some ⟨frames, .key []⟩
  | _ => none

/-- What may follow a finished value. -/
def afterValue (v : Json) : List Frame → Token → Option State
  | .array items :: frames, .comma => some ⟨.array (v :: items) :: frames, .value⟩
  | .array items :: frames, .closeArray => some ⟨frames, .next (.array (v :: items).reverse)⟩
  | .object fields key :: frames, .comma => some ⟨frames, .key ((key, v) :: fields)⟩
  | .object fields key :: frames, .closeObject =>
    some ⟨frames, .next (.object ((key, v) :: fields).reverse)⟩
  | _, _ => none

/-- One token more. -/
def step (s : State) (t : Token) : Option State :=
  match s.expect with
  | .value =>
    match s.frames, t with
    | .array [] :: frames, .closeArray => some ⟨frames, .next (.array [])⟩
    | frames, t => beginValue frames t
  | .key fields =>
    match fields, t with
    | fields, .string key => some ⟨.object fields key :: s.frames, .colon⟩
    | [], .closeObject => some ⟨s.frames, .next (.object [])⟩
    | _, _ => none
  | .colon => if t = .colon then some ⟨s.frames, .value⟩ else none
  | .next v => afterValue v s.frames t

/-- The value at the end of the tokens. -/
def finish : State → Option Json
  | ⟨[], .next v⟩ => some v
  | _ => none

end Reader

/-- The value that a list of tokens spells. -/
def ofTokens? (ts : List Token) : Option Json :=
  (ts.foldlM Reader.step Reader.State.start).bind Reader.finish

/-- The value that a text spells: one JSON value with blanks around it. -/
def ofChars? (cs : List Char) : Option Json := (tokens? cs).bind ofTokens?

/-- The value that a text spells: one JSON value with blanks around it. -/
def read? (s : String) : Option Json := ofChars? s.toList

end LoopLowering.Json
