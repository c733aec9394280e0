/-
  The registry: which rewriters serve which class of platforms.

  1.  A MODE MAP files the factories of one class: standard ones under mode keys, and maybe one for
      explicit pass sequences.
  2.  A BUILDER collects registrations.  It refuses a malformed class and a map without the required
      modes, and a refused registration changes nothing.  A class that is registered again keeps its place
      and takes the new map.
  3.  A REGISTRY is a sealed builder and can only be asked.  The class that governs a platform is the
      first of the platform's lineage that is registered; no other class is consulted, even if the
      governing map lacks what is asked for.
-/
import LoopLowering.Mode
import LoopLowering.Target
import LoopLowering.Text.Visible

namespace LoopLowering

open LoopLowering.Text

/-! ## 1. Mode maps -/

/-- Makes the target of a mode. -/
abbrev Factory := Options → Platform → Except LoweringError Target

/-- Makes the target of an explicit sequence of passes. -/
abbrev CustomFactory := List String → Options → Platform → Except LoweringError Target

/-- The word under which the factory for explicit sequences is listed. -/
def customWord : String := "custom"

/-- The factories of one class. -/
structure ModeMap where
  standard : List (ModeKey × Factory) := []
  custom : Option CustomFactory := none

namespace ModeMap

/-- The factory filed under a key. -/
def get? (m : ModeMap) (key : ModeKey) : Option Factory :=
  (m.standard.find? fun e => e.1 = key).map Prod.snd

/-- Whether a factory is filed under a key. -/
def contains (m : ModeMap) (key : ModeKey) : Bool := (m.get? key).isSome

/-- Files a factory, in place of one under the same key. -/
def insert (m : ModeMap) (key : ModeKey) (factory : Factory) : ModeMap :=
  { m with standard := m.standard.filter (fun e => e.1 ≠ key) ++ [(key, factory)] }

/-- Sets the factory for explicit sequences. -/
def setCustom (m : ModeMap) (factory : CustomFactory) : ModeMap := { m with custom := some factory }

/-- The name that a key is. -/
def named? : ModeKey × Factory → Option String
  | (.named name, _) => some name
  | _ => none

/-- The parallelism that a key is. -/
def parallel? : ModeKey × Factory → Option Parallelism
  | (.parallel p, _) => some p
  | _ => none

/-- The keys in a stable order: names, then parallelism, then the word for explicit sequences. -/
def keys (m : ModeMap) : List String :=
  (m.standard.filterMap named?).mergeSort (fun a b => a ≤ b) ++
  ((m.standard.filterMap parallel?).mergeSort (fun a b => a.rank ≤ b.rank)).map Parallelism.display ++
  (if m.custom.isSome then [customWord] else [])

/-- The text of a map in diagnostics. -/
def describe (m : ModeMap) : String :=
  "ModeMap \x7b modes: [" ++ ", ".intercalate (m.keys.map Visible.quote) ++ "] \x7d"

end ModeMap

/-! ## 2. Registration -/

/-- Why a registration was refused. -/
inductive RegistrationError where
  | malformedClass (m : PlatformClass.Malformed)
  | missingMode (tag mode : String)
  deriving DecidableEq, Repr

/-- The wording of a refusal. -/
def RegistrationError.message : RegistrationError → String
  | malformedClass m => s!"not a platform class: {m.message}"
  | missingMode tag mode =>
    s!"mode mapping for platform class `{tag}` lacks required mode `{mode}`"

/-- A class and its factories. -/
structure Registry.Entry where
  family : PlatformClass
  modes : ModeMap

/-- Registrations so far. -/
structure Registry.Builder where
  entries : List Registry.Entry := []

/-- The registrations of a sealed builder. -/
structure Registry where
  entries : List Registry.Entry

namespace Registry

/-- The first required mode that a map lacks. -/
def missingMode? (modes : ModeMap) : Option String :=
  requiredModes.find? fun mode => !modes.contains (.named mode)

/-- Why a registration is refused, if it is. -/
def refusal? (family : PlatformClass) (modes : ModeMap) : Option RegistrationError :=
  match family.defect? with
  | some defect => some (.malformedClass ⟨family.tag, defect⟩)
  | none => (missingMode? modes).map (.missingMode family.tag)

namespace Builder

/-- Whether a class with the tag is registered. -/
def knows (b : Builder) (tag : String) : Bool := b.entries.any fun e => e.family.tag = tag

/-- The builder with the map of a class filed, in place of an earlier one. -/
def put (b : Builder) (family : PlatformClass) (modes : ModeMap) : Builder :=
  if b.knows family.tag then
    ⟨b.entries.map fun e => if e.family.tag = family.tag then { e with modes } else e⟩
  else ⟨b.entries ++ [⟨family, modes⟩]⟩

/-- Registers a class; also tells whether its earlier map was replaced. -/
def add (b : Builder) (family : PlatformClass) (modes : ModeMap) :
    Except RegistrationError (Builder × Bool) :=
  match refusal? family modes with
  | some e => .error e
  | none => .ok (b.put family modes, b.knows family.tag)

/-- Ends registration. -/
def toRegistry (b : Builder) : Registry := ⟨b.entries⟩

end Builder

/-! ## 3. Lookup -/

/-- The number of registered classes. -/
def size (r : Registry) : Nat := r.entries.length

/-- Whether no class is registered. -/
def isEmpty (r : Registry) : Bool := r.entries.isEmpty

/-- The registration of a tag. -/
def find? (r : Registry) (tag : String) : Option Entry := r.entries.find? fun e => e.family.tag = tag

/-- The registration that governs a platform. -/
def govern? (r : Registry) (p : Platform) : Option Entry := p.family.lineage.findSome? r.find?

/-- The factory for a mode of a platform. -/
def factory? (r : Registry) (p : Platform) (key : ModeKey) : Option Factory :=
  (r.govern? p).bind fun e => e.modes.get? key

/-- The factory for explicit sequences of a platform. -/
def customFactory? (r : Registry) (p : Platform) : Option CustomFactory :=
  (r.govern? p).bind fun e => e.modes.custom

/-- Makes the target that is registered for a mode. -/
def fetch (r : Registry) (p : Platform) (key : ModeKey) : Except LoweringError Factory :=
  match r.factory? p key with
  | some factory => .ok factory
  | none => .error (.targetNotFound key.display p.name)

/-- The factory for explicit sequences, or the complaint that there is none. -/
def fetchCustom (r : Registry) (p : Platform) : Except LoweringError CustomFactory :=
  match r.customFactory? p with
  | some factory => .ok factory
  | none => .error (.targetNotFound customWord p.name)

end Registry

end LoopLowering
