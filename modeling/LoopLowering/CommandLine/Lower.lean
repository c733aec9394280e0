/-
  The command `lower`.

  The command decides its settings, reads the tree, lowers it and writes the result.  Its steps may fail,
  and the first that does decides what is complained about:

    1.  the configuration file, then the environment, then the level of profiling;
    2.  the platform;
    3.  the tree;
    4.  the assignments to options;
    5.  the lowering;
    6.  writing the result.

  Lowering is a function and takes no time of its own, so the times for its report are taken beforehand,
  in a rehearsal that runs the same passes on the same tree.
-/
import LoopLowering.CommandLine.Platforms
import LoopLowering.Backend
import LoopLowering.Numeric.Seconds

namespace LoopLowering.CommandLine

open Session

variable {m : Type → Type} [Monad m]

/-! ## Times -/

/-- Runs passes on a unit as far as they succeed and gives the time that each took. -/
def rehearse (clock : m Nat) (ctx : Pass.Context) (unit : TranslationUnit) : List Pass → m (List Duration)
  | [] => return []
  | pass :: rest => do
    let start ← clock
    -- The clock is read again only when the pass has run.
    match pass.run ctx unit with
    | .error _ => return []
    | .ok next =>
      let stop ← clock
      let times ← rehearse clock ctx next rest
      return .ofNanos (stop - start) :: times

/-- The times of the passes of a lowering by their places. -/
def passTimes (clock : m Nat) (l : Lowerer) (root : Node) (p : Platform)
    (request : Option ModeRequest) (overrides : List Override) : m (Nat → Duration) := do
  match l.plan p request overrides with
  | none => return fun _ => 0
  | some target =>
    let times ← rehearse clock target.context { root } target.passes
    return fun n => times.getD n 0

/-! ## Settings -/

/-- The name of the configuration file that is used when none is named. -/
def defaultConfiguration : String := "iet.toml"

/-- Where the configuration of the command comes from, unless it is the defaults. -/
def LowerRequest.configurationPath (host : Host m) (r : LowerRequest) : m (Option String) := do
  match r.configuration with
  | some path => return some path
  | none =>
    let path := FileStore.join host.directory defaultConfiguration
    if ← host.files.isFile path then return some path
    else return none

/-- The configuration that the command is based on. -/
def LowerRequest.baseConfiguration (host : Host m) (r : LowerRequest) : Session m Configuration := do
  match ← ask (r.configurationPath host) with
  | some path => settle (some (.loading path)) .file (← ask (host.files.loadConfiguration path))
  | none => return {}

/-! ## Lowering -/

/-- Notes the records that matter at least as much as a severity. -/
def noteRecords (host : Host m) (least : Severity) (records : List LogRecord) : Session m Unit :=
  (records.filter fun r => r.severity.rank ≤ least.rank).forM fun r =>
    note (.logged (r.line host.isPainted))

/-- Writes the result where the command wants it. -/
def LowerRequest.deliver (host : Host m) (r : LowerRequest) (text : String) : Session m Unit := do
  match r.output with
  | none => print (text ++ "\n")
  | some path => settle (some (.writing path)) .unwritable (← ask (host.files.write path text))

/-- Specializes a tree. -/
def lower (host : Host m) (least : Severity) (r : LowerRequest) : Session m Unit := do
  let base ← r.baseConfiguration host
  let configuration ← settle none id (r.configure base host.environment)
  let platform ← (r.platformSource configuration).find host
  let root ← settle (some (.reading r.input)) .file (← ask (host.files.loadTree r.input))
  let overrides ← settle none id r.overrides
  let lowerer : Lowerer :=
    { registry := Backend.registry, configuration, seconds := Numeric.secondsText }
  let elapsed ← ask (passTimes host.clock lowerer root platform r.modeRequest overrides)
  let lowerer := { lowerer with elapsed }
  let outcome := lowerer.lower root platform r.modeRequest overrides
  -- What the lowering had to say is noted even if it failed.
  noteRecords host least (LogRecord.ofLowering lowerer root platform r.modeRequest overrides)
  let lowered ← settle (some (.lowering r.input platform.name)) .lowering outcome.result
  for key in lowered.ignored do
    complain s!"warning: ignored unsupported option '{key}'"
  r.deliver host lowered.run.unit.root.prettyText

end LoopLowering.CommandLine
