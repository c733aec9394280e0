/-
  The processor back end: the registrations that are always there.

  Two classes are registered.  `cpu64` covers every processor; `intel64-knl` has the same modes except
  that its full pipeline parallelizes at two levels, to use the extra hardware threads.

  Every mode but `noop` is a pipeline of names that depends on the options, resolved against the library
  of the back end.  Explicit sequences are resolved against the same library.
-/
import LoopLowering.Registry
import LoopLowering.Pass.Annotation

namespace LoopLowering.Backend

/-- The library that pipelines are resolved against. -/
def library : Pass.Library := .processor

/-- The pass for shared memory, at one level or at two. -/
def openmpName (nested : Bool) : String := (Pass.openmp nested).name

/-- The full pipeline. -/
def fullPipeline (nested : Bool) (o : Options) : List String :=
  ["denormals", "simd", "blocking"] ++ (if o.openmp then [openmpName nested] else []) ++
    (if o.mpi then ["mpi"] else [])

/-- The factory of a pipeline. -/
def pipeline (passes : Options → List String) : Factory := fun o p =>
  Target.custom (passes o) o p library

/-- The factory for explicit sequences. -/
def sequence : CustomFactory := fun names o p => Target.custom names o p library

/-- The modes of a class. -/
def modes (nested : Bool) : ModeMap :=
  let empty : ModeMap := {}
  empty
    |>.insert (.named noop) (fun o p => .ok (Target.noop o p))
    |>.insert (.named advanced) (pipeline (fullPipeline nested))
    |>.insert (.parallel ⟨true, false⟩) (pipeline fun _ => ["mpi"])
    |>.insert (.parallel ⟨false, true⟩) (pipeline fun _ => ["openmp"])
    |>.insert (.parallel ⟨true, true⟩) (pipeline fun _ => ["mpi", "openmp"])
    |>.setCustom sequence

/-- The classes of the back end with their modes, in the order of registration. -/
def registrations : List (PlatformClass × ModeMap) :=
  [(.cpu64, modes false), (.intel64Knl, modes true)]

/-- Registers the back end; also tells which classes were registered before. -/
def register (b : Registry.Builder) : Except RegistrationError (Registry.Builder × List String) :=
  registrations.foldlM (fun (b, replaced) (family, modes) => do
    let (b, again) ← b.add family modes
    return (b, if again then replaced ++ [family.tag] else replaced)) (b, [])

/-- The registry of the back end alone. -/
def registry : Registry :=
  match register {} with
  | .ok (b, _) => b.toRegistry
  | .error _ => ⟨[]⟩

end LoopLowering.Backend
