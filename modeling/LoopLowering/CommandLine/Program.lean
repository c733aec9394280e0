/-
  The program as a whole: from arguments to output, notes and an exit code.

  The exit code is 0 after success, 1 when a command failed and 2 when the arguments make no sense.
-/
import LoopLowering.CommandLine.Arguments
import LoopLowering.CommandLine.Lower

namespace LoopLowering.CommandLine

open Session

variable {m : Type → Type} [Monad m]

/-- The name and the version of the program. -/
def versionLine : String := "ietc 0.1.0\n"

/-- How the program is used. -/
def usage : String :=
  "Specialize Iteration/Expression Trees for a target platform\n\n" ++
  "Usage: ietc [-q | -v...] <command>\n\n" ++
  "  lower --input <path>             lower a tree and write the result as JSON\n" ++
  "    --platform <name> | --platform-file <path>\n" ++
  "    --mode <name> | --passes <a,b,c>\n" ++
  "    --option <key=value>...        override an option\n" ++
  "    --config <path>                configuration (default: iet.toml if present)\n" ++
  "    --profiling <level>            off, basic or advanced\n" ++
  "    --output <path>                write there instead of printing\n" ++
  "  platform list                    list the platforms\n" ++
  "  platform describe <name> [--format toml]\n" ++
  "  passes                           list the passes\n"

/-- Runs a command. -/
def Invocation.run (host : Host m) (i : Invocation) : Session m Unit :=
  match i.command with
  | .lower request => lower host i.least request
  | .listPlatforms => listPlatforms host
  | .describePlatform name format => describePlatform host name format
  | .listPasses => listPasses

/-- What a run of the program leaves behind. -/
structure Report where
  exit : Nat
  transcript : Transcript
  deriving DecidableEq, Repr

/-- The report on a session that has ended. -/
def Report.ofSession (ended : Except Fault Unit × Transcript) : Report :=
  match ended with
  | (.ok _, t) => ⟨0, t⟩
  | (.error fault, t) => ⟨1, { t with notes := t.notes ++ [.complaint s!"error: {fault.message}"] }⟩

/-- The report on arguments that lead to no command. -/
def Report.ofHalt : Halt → Report
  | .help => ⟨0, { output := usage }⟩
  | .version => ⟨0, { output := versionLine }⟩
  | .misuse misuse => ⟨2, { notes := [.complaint s!"error: {misuse.message}"] }⟩

/-- Runs the program on arguments. -/
def program (host : Host m) (arguments : List String) : m Report := do
  match Invocation.read arguments with
  | .error halt => return .ofHalt halt
  | .ok invocation => return .ofSession (← (invocation.run host).run.run {})

end LoopLowering.CommandLine
