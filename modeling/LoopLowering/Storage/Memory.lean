/-
  Files kept in memory.

  A `FileTree` holds directories and files by PLACE, the list of names that lead to them from the top,
  the directory `/`.  One place is the HOME of the tree.  Paths start from the top if they begin with a
  slash, and from the home otherwise.

  Resolving a path goes from name to name.  Each name needs a directory to start from, also `.`, `..` and
  the nothing behind a final slash; only the last name may lead to nothing.  The top is its own parent.
-/
import LoopLowering.Storage.FileStore
import LoopLowering.Text.Pieces

namespace LoopLowering

/-- What is at a place. -/
inductive FileTree.Entry where
  | directory
  /-- A file with its text, or without one if its bytes are no text. -/
  | file (text : Option String)
  /-- A file that stays empty whatever is written to it. -/
  | sink
  /-- A file without room: nothing can be written to it. -/
  | full
  deriving DecidableEq, Repr

/-- Directories and files by place. -/
structure FileTree where
  /-- The place that relative paths start from. -/
  home : List String
  entries : List (List String × FileTree.Entry) := []
  deriving DecidableEq, Repr

namespace FileTree

/-- Why an operation on a path fails. -/
inductive Refusal where
  | missing
  | notDirectory
  | isDirectory
  | nameTooLong
  | noRoom
  | notText
  deriving DecidableEq, Repr

/-- The wording of a refusal. -/
def Refusal.message : Refusal → String
  | missing => "No such file or directory (os error 2)"
  | notDirectory => "Not a directory (os error 20)"
  | isDirectory => "Is a directory (os error 21)"
  | nameTooLong => "File name too long (os error 36)"
  | noRoom => "No space left on device (os error 28)"
  | notText => "stream did not contain valid UTF-8"

/-! ## Places -/

/-- What is at a place. -/
def entry? (t : FileTree) (place : List String) : Option Entry :=
  if place = [] then some .directory else t.entries.lookup place

/-- Puts an entry at a place, for whatever was there. -/
def put (t : FileTree) (place : List String) (e : Entry) : FileTree :=
  if (t.entries.lookup place).isSome then
    { t with entries := t.entries.map fun (p, old) => if p = place then (p, e) else (p, old) }
  else { t with entries := t.entries ++ [(place, e)] }

/-- Puts directories at a place and at the places above, where there is nothing yet. -/
def ensure (t : FileTree) (place : List String) : FileTree :=
  (List.range place.length).foldl (fun t n =>
    let above := place.take (n + 1)
    if (t.entry? above).isSome then t else t.put above .directory) t

/-- The tree that has nothing but its home. -/
def new (home : List String) : FileTree := ensure ⟨home, []⟩ home

/-- The path of the home from the top. -/
def homePath (t : FileTree) : String := String.join (t.home.map fun name => "/" ++ name)

/-- Puts an entry at a place and directories above it. -/
def plant (t : FileTree) (place : List String) (e : Entry) : FileTree :=
  (t.ensure place.dropLast).put place e

/-- The names of what is right below a place. -/
def below (t : FileTree) (place : List String) : List String :=
  t.entries.filterMap fun (p, _) =>
    match p.getLast? with
    | some name => if p.dropLast = place then some name else none
    | none => none

/-! ## Paths -/

/-- The most bytes that a name has. -/
def maxName : Nat := 255

/-- The most bytes that a path has. -/
def maxPath : Nat := 4095

/-- The place that a path starts from. -/
def start (t : FileTree) (path : String) : List String :=
  if path.toList.head? = some '/' then [] else t.home

/-- The names of a path that is neither empty nor too long. -/
def names (path : String) : Except Refusal (List String) :=
  if path = "" then .error .missing
  else if path.utf8ByteSize ≤ maxPath then .ok ((Text.pieces '/' path.toList).map String.ofList)
  else .error .nameTooLong

/-- Follows names from a place. -/
def follow (t : FileTree) (place : List String) : List String → Except Refusal (List String)
  | [] => .ok place
  | name :: rest =>
    match t.entry? place with
    | none => .error .missing
    | some (.file _) | some .sink | some .full => .error .notDirectory
    | some .directory =>
      if name = "" ∨ name = "." then t.follow place rest
      -- The name of a parent is not looked up.
      else if name = ".." then t.follow place.dropLast rest
      else if name.utf8ByteSize ≤ maxName then t.follow (place ++ [name]) rest
      else .error .nameTooLong

/-- The place that a path leads to, whether or not there is anything. -/
def locate (t : FileTree) (path : String) : Except Refusal (List String) := do
  t.follow (t.start path) (← names path)

/-- What a path leads to. -/
def find (t : FileTree) (path : String) : Except Refusal Entry := do
  match t.entry? (← t.locate path) with
  | some e => return e
  | none => throw .missing

/-! ## Operations -/

/-- The text of the file at a path. -/
def read (t : FileTree) (path : String) : Except Refusal String := do
  match ← t.find path with
  | .directory => throw .isDirectory
  | .file none => throw .notText
  | .file (some text) => return text
  | .sink | .full => return ""

/-- The names in the directory at a path. -/
def list (t : FileTree) (path : String) : Except Refusal (List String) := do
  match ← t.find path with
  | .directory => return t.below (← t.locate path)
  | .file _ | .sink | .full => throw .notDirectory

/-- Writes a text to a path.  A final slash stands for a directory, which no text can be written to. -/
def write (t : FileTree) (path text : String) : Except Refusal FileTree := do
  let names ← names path
  let bare := (names.reverse.dropWhile fun name => name = "").reverse
  let parent ← t.follow (t.start path) (bare.dropLast ++ ["."])
  match bare.getLast? with
  -- A path of slashes leads to the top.
  | none => throw .isDirectory
  | some name =>
    let place := parent ++ [name]
    if bare ≠ names ∨ name = "." ∨ name = ".." then throw .isDirectory
    else if maxName < name.utf8ByteSize then throw .nameTooLong
    else
      match t.entry? place with
      | some .directory => throw .isDirectory
      | some .sink => return t
      | some .full => throw .noRoom
      | _ => return t.put place (.file (some text))

/-- A file tree as a store. -/
def store : FileStore (StateM FileTree) where
  isPresent path := do return ((← get).find path).isOk
  isFile path := do
    match (← get).find path with
    | .ok (.file _) => return true
    | _ => return false
  isDirectory path := do return (← get).find path matches .ok .directory
  read path := do return ((← get).read path).mapError Refusal.message
  names path := do return ((← get).list path).mapError Refusal.message
  write path text := do
    match (← get).write path text with
    | .error r => return .error r.message
    | .ok t =>
      set t
      return .ok ()

end FileTree

end LoopLowering
