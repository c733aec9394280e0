/-
  The configuration of a lowering: what holds unless a caller says otherwise.

  A configuration comes from three layers, each over the one before:

    1.  the defaults;
    2.  a TOML file, whose missing fields keep their defaults (`Configuration.read?`);
    3.  the `IET_*` variables of the environment (`Configuration.applyEnv`), of which the last
        assignment to a variable wins.  A variable with a bad value stops the overlay; what was
        assigned before it stays assigned.
-/
import LoopLowering.Settings.Profiling
import LoopLowering.Platform.Catalogue
import LoopLowering.Toml.Reader
import LoopLowering.Toml.Record

namespace LoopLowering

/-- Defaults for the two blocking options. -/
structure BlockingDefaults where
  blockinner : Option Bool := none
  blocklevels : Option UInt32 := none
  deriving DecidableEq, Repr, Inhabited

/-- A configuration. -/
structure Configuration where
  /-- The name of the platform. -/
  platform : String := "cpu64"
  /-- Whether shared-memory parallelism is generated. -/
  openmp : Bool := false
  /-- Whether distributed-memory parallelism is generated. -/
  mpi : Bool := false
  profiling : ProfilingLevel := .off
  blocking : BlockingDefaults := {}
  deriving DecidableEq, Repr, Inhabited

/-- Reads defaults for the blocking options. -/
def BlockingDefaults.ofToml? (v : Toml.Value) : Option BlockingDefaults := do
  let fields ← v.record? ["blockinner", "blocklevels"]
  return {
    blockinner := ← fields.optional? "blockinner" (fun v => v.bool?.map some) none
    blocklevels := ← fields.optional? "blocklevels" (fun v => v.word32?.map some) none
  }

namespace Configuration

/-! ## Files -/

/-- Reads a configuration from the fields of its file. -/
def ofToml? (fields : Toml.Fields) : Option Configuration := do
  let unset : Configuration := {}
  return {
    platform := ← fields.optional? "platform" Toml.Value.text? unset.platform
    openmp := ← fields.optional? "openmp" Toml.Value.bool? unset.openmp
    mpi := ← fields.optional? "mpi" Toml.Value.bool? unset.mpi
    profiling := ← fields.optional? "profiling" (fun v => v.name?.bind ProfilingLevel.ofName?)
      unset.profiling
    blocking := ← fields.optional? "dle-options" BlockingDefaults.ofToml? unset.blocking
  }

/-- Reads a configuration file. -/
def read? (s : String) : Option Configuration := (Toml.read? s).bind ofToml?

/-! ## Platforms -/

/-- The built-in platform that the configuration names. -/
def platform? (c : Configuration) : Option Platform := Platform.builtin? c.platform

/-! ## Environment -/

/-- The boolean that a variable's value spells, in either case. -/
def flag? (value : String) : Option Bool :=
  let word := value.map Char.toLower
  if word ∈ ["1", "true", "on", "yes"] then some true
  else if word ∈ ["0", "false", "off", "no"] then some false
  else none

/-- A variable whose value cannot be read. -/
structure BadVariable where
  name : String
  value : String
  deriving DecidableEq, Repr

/-- The complaint about a bad variable. -/
def BadVariable.message (b : BadVariable) : String := s!"invalid value `{b.value}` for {b.name}"

/-- Overlays one variable; one that does not matter here leaves the configuration alone. -/
def applyVariable? (c : Configuration) (name value : String) : Option Configuration :=
  match name with
  | "IET_PLATFORM" => some { c with platform := value }
  | "IET_OPENMP" => (flag? value).map fun openmp => { c with openmp }
  | "IET_MPI" => (flag? value).map fun mpi => { c with mpi }
  | "IET_PROFILING" => (ProfilingLevel.parse? value).map fun profiling => { c with profiling }
  | _ => some c

/-- Overlays variables in order up to the first bad one; gives the configuration reached and the bad
    variable, if there is one. -/
def applyEnv (c : Configuration) : List (String × String) → Configuration × Option BadVariable
  | [] => (c, none)
  | (name, value) :: rest =>
    match c.applyVariable? name value with
    | some c => c.applyEnv rest
    | none => (c, some ⟨name, value⟩)

end Configuration

end LoopLowering
