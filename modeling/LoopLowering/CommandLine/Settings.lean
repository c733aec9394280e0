/-
  Who decides what: the settings of a `lower` command.

  A setting is decided by the first of these that says anything about it:

    1.  the options of the command;
    2.  the `IET_*` variables of the environment, the last assignment to a variable counting;
    3.  the configuration file;
    4.  the defaults.

  The functions here apply the layers from below.  Layers 3 and 4 are one configuration, the `base`; the
  variables are laid over it and the option for profiling over them (`LowerRequest.configure`).  The
  options for the passes come last, as overrides, when the tree is lowered.
-/
import LoopLowering.CommandLine.Command
import LoopLowering.Mode
import LoopLowering.Storage.Loading
import LoopLowering.Target

namespace LoopLowering.CommandLine

/-! ## What can go wrong -/

/-- Why a command failed. -/
inductive Cause where
  | file (e : FileError)
  /-- A text could not be put at a path. -/
  | unwritable (reason : String)
  | badVariable (b : Configuration.BadVariable)
  /-- No level of profiling has this name. -/
  | level (name : String)
  | assignment (e : InvalidOption)
  /-- No platform has this name. -/
  | unknownPlatform (name : String)
  /-- The definition of a platform has errors. -/
  | invalidPlatform (path : String) (errors : Nat)
  /-- A platform cannot be described in this format. -/
  | unknownFormat (name : String)
  | lowering (e : LoweringError)
  deriving DecidableEq, Repr

/-- The wording of a cause and of what caused it, from the outside in. -/
def Cause.chain : Cause → List String
  | file e => e.chain
  | unwritable reason => [reason]
  | badVariable b => [b.message]
  | level name => [ProfilingLevel.invalidMessage name]
  | assignment e => [e.message]
  | unknownPlatform name =>
    [s!"{Platform.unknownMessage name}. Use 'ietc platform list' to see available platforms."]
  | invalidPlatform path errors =>
    [s!"{path} is not a valid platform definition ({errors} error(s))"]
  | unknownFormat name => [s!"unknown format '{name}' (expected 'toml')"]
  | lowering e => e.chain

/-- What a command was busy with when it failed. -/
inductive Activity where
  | loading (path : String)
  | reading (path : String)
  | scanning (path : String)
  | lowering (input platform : String)
  | writing (path : String)
  deriving DecidableEq, Repr

/-- The wording of an activity. -/
def Activity.message : Activity → String
  | loading path => s!"loading {path}"
  | reading path => s!"reading {path}"
  | scanning path => s!"scanning {path}"
  | lowering input platform => s!"lowering {input} for {platform}"
  | writing path => s!"writing {path}"

/-- The failure of a command. -/
structure Fault where
  during : Option Activity := none
  cause : Cause
  deriving DecidableEq, Repr

/-- The complaint about a failure: what was being done, and what went wrong, from the outside in. -/
def Fault.message (f : Fault) : String :=
  ": ".intercalate (f.during.toList.map Activity.message ++ f.cause.chain)

/-! ## Settings -/

namespace LowerRequest

/-- The configuration of the command, given the one it is based on and the environment. -/
def configure (r : LowerRequest) (base : Configuration) (environment : List (String × String)) :
    Except Cause Configuration :=
  match base.applyEnv environment with
  | (_, some bad) => .error (.badVariable bad)
  | (c, none) =>
    match r.profiling with
    | none => .ok c
    | some name =>
      match ProfilingLevel.parse? name with
      | some profiling => .ok { c with profiling }
      | none => .error (.level name)

/-- The overrides that the command's assignments spell. -/
def overrides (r : LowerRequest) : Except Cause (List Override) :=
  (Override.parseAll r.assignments).mapError .assignment

/-- The mode that the command asks for. -/
def modeRequest (r : LowerRequest) : Option ModeRequest :=
  match r.passes with
  | some names => some (.passes (Text.commaList names))
  | none => r.mode.map .name

end LowerRequest

/-- Where a platform comes from. -/
inductive PlatformSource where
  /-- The definition at a path. -/
  | file (path : String)
  /-- The built-in platform of a name or, if there is none, the project's. -/
  | named (name : String)
  deriving DecidableEq, Repr

/-- Where the platform of a command comes from, given its configuration. -/
def LowerRequest.platformSource (r : LowerRequest) (c : Configuration) : PlatformSource :=
  match r.platformFile with
  | some path => .file path
  | none => .named (r.platform.getD c.platform)

end LoopLowering.CommandLine
