/-
  How much a profile report tells.
-/

namespace LoopLowering

/-- The verbosity of profile reports. -/
inductive ProfilingLevel where
  | off
  | basic
  | advanced
  deriving DecidableEq, Repr, Inhabited

namespace ProfilingLevel

/-- The name of a level. -/
def name : ProfilingLevel → String
  | off => "off"
  | basic => "basic"
  | advanced => "advanced"

/-- The level of a name. -/
def ofName? (name : String) : Option ProfilingLevel :=
  [off, basic, advanced].find? fun l => l.name = name

/-- Whether every pass gets a line of its own. -/
def isDetailed : ProfilingLevel → Bool
  | off => false
  | _ => true

/-- Reads a level as a caller writes it: in either case, and `none` for `off`. -/
def parse? (s : String) : Option ProfilingLevel :=
  let word := s.map Char.toLower
  if word = "none" then some off else ofName? word

/-- The complaint about a text that is no level. -/
def invalidMessage (s : String) : String :=
  s!"invalid profiling level `{s}` (expected off, basic or advanced)"

end ProfilingLevel

end LoopLowering
