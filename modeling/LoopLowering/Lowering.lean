/-
  Lowering: specializing a tree for a platform.

  One lowering goes through four stages, and the first that fails decides the outcome:

    1.  the overrides are merged over the options of the configuration;
    2.  the request becomes the effective mode;
    3.  the mode is dispatched: to the factory filed under its key, or else, read as a sequence of
        passes, to the factory for explicit sequences;
    4.  the target made by the factory runs on the tree.

  Besides its result a lowering leaves EVENTS for whoever keeps a log: a warning for each option that was
  dropped, and after a success the profile report.
-/
import LoopLowering.Registry

namespace LoopLowering

/-- Something worth a line in a log. -/
inductive Event where
  /-- An option was dropped because its key is not recognized. -/
  | optionIgnored (key : String)
  /-- A class was registered again, and its rewriters were replaced. -/
  | classReplaced (tag : String)
  /-- The profile report of a successful lowering. -/
  | profile (report : String)
  deriving DecidableEq, Repr

/-- The line of an event. -/
def Event.line : Event → String
  | optionIgnored key => s!"warn: illegal lowering option; ignored: {key}"
  | classReplaced tag =>
    s!"warn: platform class registered again; replacing its rewriters: {tag}"
  | profile report => s!"info: iet::profiling: {report}"

/-- Whether an event is a warning. -/
def Event.isWarning : Event → Bool
  | profile _ => false
  | _ => true

/-- What a successful lowering gives. -/
structure Lowered where
  run : Run
  /-- The effective mode. -/
  mode : Mode
  /-- The options that the passes read. -/
  options : Options
  /-- The keys that were dropped. -/
  ignored : List String
  /-- The profile report. -/
  profile : String

/-- The outcome of a lowering. -/
structure Outcome where
  events : List Event
  result : Except LoweringError Lowered

/-- What lowerings have in common. -/
structure Lowerer where
  registry : Registry
  configuration : Configuration := {}
  /-- The time that each pass of a sequence takes. -/
  elapsed : Nat → Duration := fun _ => 0
  /-- The text of a number of nanoseconds in reports. -/
  seconds : Nat → String

namespace Lowerer

/-- Makes the target of an effective mode. -/
def target (l : Lowerer) (mode : Mode) (o : Options) (p : Platform) : Except LoweringError Target :=
  -- A factory that fails is not given a second chance as a sequence.
  match mode.key?.bind (l.registry.factory? p) with
  | some factory => factory o p
  | none => do
    let factory ← l.registry.fetchCustom p
    factory mode.passes o p

/-- The target that a lowering runs, if it gets as far as that. -/
def plan (l : Lowerer) (p : Platform) (request : Option ModeRequest) (overrides : List Override) :
    Option Target :=
  match ((Options.ofConfiguration l.configuration).merge overrides).result with
  | .error _ => none
  | .ok o => (l.target (Mode.resolve request o) o p).toOption

/-- Lowers a tree with options that are already merged. -/
def lowerWith (l : Lowerer) (root : Node) (p : Platform) (request : Option ModeRequest)
    (o : Options) (ignored : List String) : Except LoweringError Lowered := do
  let mode := Mode.resolve request o
  let target ← l.target mode o p
  let run ← target.process l.elapsed root
  return ⟨run, mode, o, ignored, run.ledger.profile l.configuration.profiling l.seconds⟩

/-- Lowers a tree. -/
def lower (l : Lowerer) (root : Node) (p : Platform) (request : Option ModeRequest)
    (overrides : List Override) : Outcome :=
  let merge := (Options.ofConfiguration l.configuration).merge overrides
  -- The warnings come first, and they come even if the merge fails.
  let warnings := merge.ignored.map Event.optionIgnored
  match merge.result with
  | .error e => ⟨warnings, .error (.invalidOption e)⟩
  | .ok o =>
    match l.lowerWith root p request o merge.ignored with
    | .error e => ⟨warnings, .error e⟩
    | .ok lowered => ⟨warnings ++ [.profile lowered.profile], .ok lowered⟩

end Lowerer

end LoopLowering
