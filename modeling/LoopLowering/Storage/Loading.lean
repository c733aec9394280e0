/-
  Loading trees, platforms and configurations from files.

  Three things can go wrong, and they are told apart:

    1.  there is nothing at the path of a tree or of a platform;
    2.  the text cannot be had, because the path leads to a directory, say, or the bytes are no text;
    3.  the text is not what it should be.

  A project keeps the definitions of its own platforms in the directory `platforms`, each in a file
  `NAME.platform.toml` (`FileStore.discover`).
-/
import LoopLowering.Storage.FileStore
import LoopLowering.Tree.Format
import LoopLowering.Platform.Definition
import LoopLowering.Settings.Configuration

namespace LoopLowering

/-- Why a file could not be loaded. -/
inductive FileError where
  /-- There is nothing at the path of a tree. -/
  | treeMissing (path : String)
  /-- There is nothing at the path of a platform. -/
  | platformMissing (path : String)
  /-- The text cannot be had. -/
  | unreadable (reason : String)
  /-- The text is not that of a tree. -/
  | notTree
  /-- The text does not define a platform. -/
  | notPlatform
  /-- The text is not that of a configuration. -/
  | notConfiguration
  deriving DecidableEq, Repr

/-- The wording of an error and of what caused it, from the outside in. -/
def FileError.chain : FileError → List String
  | treeMissing path => [s!"IET file not found: {path}"]
  | platformMissing path => [s!"platform file not found: {path}"]
  | unreadable reason => [s!"I/O error: {reason}", reason]
  | notTree => ["JSON error: not a tree"]
  | notPlatform => ["TOML parse error: not a platform definition"]
  | notConfiguration => ["configuration parse error: not a configuration"]

namespace FileStore

variable {m : Type → Type} [Monad m]

/-- Loads what a reader finds in the text of a file; `otherwise` says that it finds nothing. -/
def load {α : Type} (files : FileStore m) (reader : String → Option α) (otherwise : FileError)
    (path : String) : m (Except FileError α) := do
  match ← files.read path with
  | .error reason => return .error (.unreadable reason)
  | .ok text =>
    match reader text with
    | some a => return .ok a
    | none => return .error otherwise

/-- Loads a tree. -/
def loadTree (files : FileStore m) (path : String) : m (Except FileError Node) := do
  if ← files.isPresent path then files.load Node.read? .notTree path
  else return .error (.treeMissing path)

/-- Loads a platform, whether or not it is valid. -/
def loadPlatform (files : FileStore m) (path : String) : m (Except FileError Platform) := do
  if ← files.isPresent path then files.load Platform.read? .notPlatform path
  else return .error (.platformMissing path)

/-- Loads a configuration. -/
def loadConfiguration (files : FileStore m) (path : String) :
    m (Except FileError Configuration) :=
  files.load Configuration.read? .notConfiguration path

/-! ## Platforms of a project -/

/-- The end of the name of a file that defines a platform. -/
def definitionSuffix : List Char := ".platform.toml".toList

/-- The name of the platform that a file of this name defines, if it defines one. -/
def definedName? (file : String) : Option String :=
  let cs := file.toList
  let n := cs.length - definitionSuffix.length
  if cs.drop n = definitionSuffix then some (String.ofList (cs.take n)) else none

/-- The directory of the platforms of a project. -/
def platformDirectory (project : String) : String := join project "platforms"

/-- The platforms that files of a directory define, each with the path of its file, sorted by name. -/
def definitions (directory : String) (files : List String) : List (String × String) :=
  (files.filterMap fun file => (definedName? file).map fun name => (name, join directory file)).mergeSort
    fun a b => decide (a.1 ≤ b.1)

/-- Finds the platforms of a project, each with the path of its file, sorted by name. -/
def discover (files : FileStore m) (project : String) :
    m (Except FileError (List (String × String))) := do
  let directory := platformDirectory project
  if ← files.isDirectory directory then
    match ← files.names directory with
    | .error reason => return .error (.unreadable reason)
    | .ok names => return .ok (definitions directory names)
  else return .ok []

example : definedName? "a.b.platform.toml" = some "a.b" ∧ definedName? ".platform.toml" = some "" ∧
    definedName? "platform.toml" = none := by decide +kernel

end FileStore

end LoopLowering
