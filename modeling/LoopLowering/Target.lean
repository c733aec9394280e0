/-
  Targets: a platform and options bound to a sequence of passes.

  A target runs its passes strictly in order, each on the unit that the one before it left.  The first
  failure ends the run, and what was rewritten so far is dropped.  Every pass that succeeds is entered in
  the timing ledger; how long the passes took is supplied from outside, as a function of their places in
  the sequence.
-/
import LoopLowering.Pass.Basic
import LoopLowering.Ledger

namespace LoopLowering

/-- Why a lowering failed. -/
inductive LoweringError where
  /-- An option has a value that does not suit it. -/
  | invalidOption (e : InvalidOption)
  /-- Nothing is registered for a mode. -/
  | targetNotFound (mode platform : String)
  /-- A sequence names a pass that is not in the library. -/
  | unknownPass (e : UnknownPass)
  /-- A pass failed. -/
  | passFailed (pass : String) (failure : Pass.Failure)
  deriving DecidableEq, Repr

namespace LoweringError

/-- The wording of an error. -/
def message : LoweringError → String
  | invalidOption e => e.message
  | targetNotFound mode platform =>
    s!"couldn't find a rewriter `{mode}` for platform `{platform}`"
  | unknownPass e => e.message
  | passFailed pass failure => s!"pass `{pass}` failed: {failure.message}"

/-- The wording of an error and of what caused it, from the outside in. -/
def chain (e : LoweringError) : List String :=
  match e with
  | passFailed _ failure => [e.message, failure.message]
  | e => [e.message]

end LoweringError

/-- A platform and options bound to passes. -/
structure Target where
  options : Options
  platform : Platform
  passes : List Pass

/-- What a run leaves: the unit and the ledger. -/
structure Run where
  unit : TranslationUnit
  ledger : Ledger := {}
  deriving DecidableEq, Inhabited

namespace Target

/-- The target without passes. -/
def noop (options : Options) (platform : Platform) : Target := ⟨options, platform, []⟩

/-- The target of a sequence of names, looked up in a library. -/
def custom (sequence : List String) (options : Options) (platform : Platform)
    (lib : Pass.Library) : Except LoweringError Target :=
  match lib.resolve platform sequence with
  | .ok passes => .ok ⟨options, platform, passes⟩
  | .error e => .error (.unknownPass e)

/-- The names of the passes in order. -/
def passNames (t : Target) : List String := t.passes.map Pass.name

/-- What the passes read. -/
def context (t : Target) : Pass.Context := ⟨t.options, t.platform⟩

/-- Runs passes on from a run; the first of them has the place `n` in the sequence. -/
def runFrom (ctx : Pass.Context) (elapsed : Nat → Duration) (n : Nat) (run : Run) :
    List Pass → Except LoweringError Run
  | [] => .ok run
  | pass :: rest =>
    match pass.run ctx run.unit with
    -- What was rewritten so far is dropped.
    | .error failure => .error (.passFailed pass.name failure)
    | .ok unit => runFrom ctx elapsed (n + 1) ⟨unit, run.ledger.record pass.name (elapsed n)⟩ rest

/-- Runs the passes of the target on a tree. -/
def process (t : Target) (elapsed : Nat → Duration) (root : Node) : Except LoweringError Run :=
  runFrom t.context elapsed 0 ⟨{ root }, {}⟩ t.passes

/-- How far passes get from a run: to their end, or to the first that fails. -/
def reachFrom (ctx : Pass.Context) (elapsed : Nat → Duration) (n : Nat) (run : Run) : List Pass → Run
  | [] => run
  | pass :: rest =>
    match pass.run ctx run.unit with
    | .error _ => run
    | .ok unit => reachFrom ctx elapsed (n + 1) ⟨unit, run.ledger.record pass.name (elapsed n)⟩ rest

/-- How far the passes of the target get on a tree. -/
def reach (t : Target) (elapsed : Nat → Duration) (root : Node) : Run :=
  reachFrom t.context elapsed 0 ⟨{ root }, {}⟩ t.passes

/-- A run that succeeds is reached. -/
theorem reachFrom_of_runFrom {ctx : Pass.Context} {elapsed : Nat → Duration} {passes : List Pass} {n : Nat}
    {run last : Run} (h : runFrom ctx elapsed n run passes = .ok last) :
    reachFrom ctx elapsed n run passes = last := by
  induction passes generalizing n run with
  | nil => simpa [runFrom, reachFrom] using h
  | cons pass rest ih =>
    cases ran : pass.run ctx run.unit with
    | error failure => simp [runFrom, ran] at h
    | ok unit =>
      simp only [runFrom, ran] at h
      simpa only [reachFrom, ran] using ih h

theorem reach_of_process {t : Target} {elapsed : Nat → Duration} {root : Node} {last : Run}
    (h : t.process elapsed root = .ok last) : t.reach elapsed root = last :=
  reachFrom_of_runFrom h

end Target

end LoopLowering
