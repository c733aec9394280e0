/-
  The program on a real machine: files on disk, the process environment and the system's clock.

  Nothing is decided here.  A path is asked about by resolving it: something is there when that succeeds,
  and it is a directory when `.` can be resolved below it.
-/
import LoopLowering.CommandLine.Program

namespace LoopLowering.CommandLine

/-- The reasons that come with the common error codes of file operations. -/
def reasonOfCode : List (Nat × String) :=
  [(1, "Operation not permitted"), (2, "No such file or directory"), (5, "Input/output error"),
   (13, "Permission denied"), (17, "File exists"), (20, "Not a directory"), (21, "Is a directory"),
   (22, "Invalid argument"), (26, "Text file busy"), (27, "File too large"),
   (28, "No space left on device"), (30, "Read-only file system"), (36, "File name too long"),
   (40, "Too many levels of symbolic links")]

/-- The code of an error, if it has one. -/
def codeOf : IO.Error → Option Nat
  | .alreadyExists _ code _ | .otherError code _ | .resourceBusy code _
  | .resourceVanished code _ | .unsupportedOperation code _ | .hardwareFault code _
  | .unsatisfiedConstraints code _ | .illegalOperation code _ | .protocolError code _
  | .timeExpired code _ | .interrupted _ code _ | .noFileOrDirectory _ code _
  | .invalidArgument _ code _ | .permissionDenied _ code _ | .resourceExhausted _ code _
  | .inappropriateType _ code _ | .noSuchThing _ code _ => some code.toNat
  | _ => none

/-- The wording of an error. -/
def reason (e : IO.Error) : String :=
  match codeOf e with
  | none => toString e
  | some code =>
    let text := (reasonOfCode.lookup code).getD "File operation failed"
    s!"{text} (os error {code})"

/-- The result of an action, or the reason why there is none. -/
def attempt {α : Type} (action : IO α) : IO (Except String α) := do
  try return .ok (← action)
  catch e => return .error (reason e)

/-- Whether a path can be resolved. -/
def resolves (path : String) : IO Bool := do
  return (← attempt (IO.FS.realPath path)).isOk

/-- Whether a path leads to a directory. -/
def leadsToDirectory (path : String) : IO Bool :=
  if path = "" then return false else resolves (FileStore.join path ".")

/-- The files on disk. -/
def disk : FileStore IO where
  isPresent := resolves
  isFile path := do
    if ← leadsToDirectory path then return false
    else resolves path
  isDirectory := leadsToDirectory
  read path := attempt (IO.FS.readFile path)
  names path := attempt do
    let directory ← IO.FS.realPath path
    return (← directory.readDir).toList.map fun entry => entry.fileName
  write path text := attempt (IO.FS.writeFile path text)

/-- The variables of the environment that matter, in the order of their names. -/
def relevantVariables : List String :=
  ["IET_MPI", "IET_OPENMP", "IET_PLATFORM", "IET_PROFILING", "NO_COLOR"]

/-- The surroundings of the process. -/
def processHost : IO (Host IO) := do
  let environment ← relevantVariables.filterMapM fun name => do
    return (← IO.getEnv name).map fun value => (name, value)
  return {
    files := disk, directory := (← IO.currentDir).toString, environment, clock := IO.monoNanosNow }

end LoopLowering.CommandLine

/-- Runs the program on the arguments of the process. -/
def main (arguments : List String) : IO UInt32 := do
  let host ← LoopLowering.CommandLine.processHost
  let report ← LoopLowering.CommandLine.program host arguments
  for note in report.transcript.notes do
    IO.eprintln note.text
  IO.print report.transcript.output
  return report.exit.toUInt32
