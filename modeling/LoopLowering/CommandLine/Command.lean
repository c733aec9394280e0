/-
  What the program can be asked to do.

  There are four COMMANDS.  `lower` specializes a tree; what its caller leaves open is decided by the
  configuration (see `LoopLowering.CommandLine.Settings`).  The other three show what there is to choose
  from: the platforms, one platform, the passes.
-/
import LoopLowering.CommandLine.Log

namespace LoopLowering.CommandLine

/-- What a caller of `lower` says. -/
structure LowerRequest where
  /-- The path of the tree. -/
  input : String
  /-- The name of the platform. -/
  platform : Option String := none
  /-- The path of the definition of the platform. -/
  platformFile : Option String := none
  /-- The name of a mode. -/
  mode : Option String := none
  /-- Names of passes with commas between them. -/
  passes : Option String := none
  /-- Assignments to options, in the order given. -/
  assignments : List String := []
  /-- The path of the configuration. -/
  configuration : Option String := none
  /-- The level of profiling. -/
  profiling : Option String := none
  /-- The path that the result goes to. -/
  output : Option String := none
  deriving DecidableEq, Repr

/-- A command. -/
inductive Command where
  /-- Specializes a tree. -/
  | lower (request : LowerRequest)
  /-- Lists the platforms. -/
  | listPlatforms
  /-- Describes a platform, in a format if one is named. -/
  | describePlatform (name : String) (format : Option String)
  /-- Lists the passes. -/
  | listPasses
  deriving DecidableEq, Repr

/-- A command, and the least severity that is logged. -/
structure Invocation where
  least : Severity
  command : Command
  deriving DecidableEq, Repr

end LoopLowering.CommandLine
