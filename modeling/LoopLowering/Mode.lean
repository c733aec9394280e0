/-
  Modes: how much a lowering does.

  1.  A caller makes a REQUEST: the name of a mode, or a list of passes.
  2.  Request and options together give the EFFECTIVE mode (`Mode.resolve`).  A request for `noop` still
      honours the parallelism that the options switch on; no request at all does not.
  3.  An effective mode is looked up under a KEY; a list of passes has none.
  4.  Every mode can also be read as a list of passes (`Mode.passes`), which serves where no key is
      known.
-/
import LoopLowering.Options.Basic

namespace LoopLowering

open LoopLowering.Text

/-- The mode that does nothing beyond the parallelism asked for. -/
def noop : String := "noop"

/-- The mode of the full pipeline. -/
def advanced : String := "advanced"

/-- The modes that every registered class provides. -/
def requiredModes : List String := [noop, advanced]

/-- A mode as a caller asks for it. -/
inductive ModeRequest where
  /-- The name of a mode, or passes with commas between them. -/
  | name (s : String)
  /-- Passes in order. -/
  | passes (names : List String)
  deriving DecidableEq, Repr, Inhabited

/-- Kinds of parallelism. -/
structure Parallelism where
  mpi : Bool
  openmp : Bool
  deriving DecidableEq, Repr, Inhabited

namespace Parallelism

/-- The parallelism that options switch on. -/
def ofOptions (o : Options) : Parallelism := ⟨o.mpi, o.openmp⟩

/-- Whether there is none. -/
def isEmpty (p : Parallelism) : Bool := !p.mpi && !p.openmp

/-- The names of the kinds, which are also the names of their passes. -/
def flags (p : Parallelism) : List String :=
  (if p.mpi then ["mpi"] else []) ++ (if p.openmp then ["openmp"] else [])

/-- The text of a parallelism. -/
def display (p : Parallelism) : String := "(" ++ ",".intercalate p.flags ++ ")"

/-- The place in listings: without before with, distributed memory first. -/
def rank (p : Parallelism) : Nat := 2 * p.mpi.toNat + p.openmp.toNat

end Parallelism

/-- What a rewriter is registered under. -/
inductive ModeKey where
  | named (name : String)
  | parallel (p : Parallelism)
  deriving DecidableEq, Repr, Inhabited

/-- The text of a key. -/
def ModeKey.display : ModeKey → String
  | named name => name
  | parallel p => p.display

/-- The effective mode of a lowering. -/
inductive Mode where
  /-- A mode by name. -/
  | known (name : String)
  /-- No optimization, but the given parallelism. -/
  | parallel (p : Parallelism)
  /-- The given passes, exactly. -/
  | custom (names : List String)
  deriving DecidableEq, Repr, Inhabited

namespace Mode

/-- The key that the mode is looked up under. -/
def key? : Mode → Option ModeKey
  | known name => some (.named name)
  | parallel p => some (.parallel p)
  | custom _ => none

/-- The mode as a list of passes; a name is split at its commas. -/
def passes : Mode → List String
  | known name => commaList name
  | parallel p => p.flags
  | custom names => names

/-- The text of a mode. -/
def display : Mode → String
  | known name => name
  | parallel p => p.display
  | custom names => "[" ++ ",".intercalate names ++ "]"

/-- The effective mode of a request. -/
def resolve (request : Option ModeRequest) (o : Options) : Mode :=
  match request with
  | none => known noop
  | some (.passes names) => custom names
  | some (.name name) =>
    -- Only the exact word counts, without blanks around it.
    if name = noop ∧ !(Parallelism.ofOptions o).isEmpty then parallel (.ofOptions o)
    else known name

end Mode

end LoopLowering
