/-
  The session of a command: what it asks of its surroundings and what it leaves behind.

  A command prints to one channel, notes records of the log and complaints on another, and may fail.  What it printed
  and noted before it failed stays.  All of it is collected in a `Transcript`, so that over a pure store
  the whole program is a function from its arguments to a transcript and an exit code.
-/
import LoopLowering.CommandLine.Settings
import LoopLowering.CommandLine.Log

namespace LoopLowering.CommandLine

/-- The surroundings of the program. -/
structure Host (m : Type → Type) where
  files : FileStore m
  /-- The directory that the program runs in. -/
  directory : String
  /-- The variables of the environment. -/
  environment : List (String × String)
  /-- The nanoseconds since some fixed moment. -/
  clock : m Nat

/-- Whether the log is painted: always, unless the environment says otherwise. -/
def Host.isPainted {m : Type → Type} (host : Host m) : Bool :=
  (host.environment.lookup "NO_COLOR").getD "" = ""

/-- A line beside the output. -/
inductive Note where
  | logged (line : String)
  | complaint (text : String)
  deriving DecidableEq, Repr

/-- The text of a note. -/
def Note.text : Note → String
  | logged line => line
  | complaint text => text

/-- What a command leaves behind. -/
structure Transcript where
  output : String := ""
  notes : List Note := []
  deriving DecidableEq, Repr

/-- The lines of a transcript beside its output.  A text with line breaks makes several. -/
def Transcript.lines (t : Transcript) : List String :=
  t.notes.flatMap fun note => note.text.splitOn "\n"

/-- The actions of a command. -/
abbrev Session (m : Type → Type) := ExceptT Fault (StateT Transcript m)

namespace Session

variable {m : Type → Type} [Monad m]

/-- Prints a text. -/
def print (text : String) : Session m Unit :=
  modify fun t => { t with output := t.output ++ text }

/-- Notes something. -/
def note (n : Note) : Session m Unit :=
  modify fun t => { t with notes := t.notes ++ [n] }

/-- Complains. -/
def complain (text : String) : Session m Unit := note (.complaint text)

/-- Asks something of the surroundings. -/
def ask {α : Type} (action : m α) : Session m α := ExceptT.lift (StateT.lift action)

/-- Goes on with the result of something that may have failed. -/
def settle {α ε : Type} (during : Option Activity) (cause : ε → Cause) (result : Except ε α) :
    Session m α :=
  match result with
  | .ok a => pure a
  | .error e => throw ⟨during, cause e⟩

end Session

end LoopLowering.CommandLine
