/-
  The commands about platforms and passes.

  A platform is looked for by name among the built-in ones first and then among those that the project
  defines.  A definition is checked when it is loaded: its warnings and errors are all complained about,
  and only errors make it unusable.
-/
import LoopLowering.CommandLine.Session
import LoopLowering.Platform.Validation
import LoopLowering.Pass.Annotation

namespace LoopLowering.CommandLine

open Session

variable {m : Type → Type} [Monad m]

/-! ## Finding a platform -/

/-- Loads a platform and refuses it if its definition has errors. -/
def loadChecked (host : Host m) (path : String) : Session m Platform := do
  let platform ← settle (some (.loading path)) .file (← ask (host.files.loadPlatform path))
  for issue in platform.issues do
    complain s!"{issue.severity.word}: {path}: {issue.message}"
  match platform.errors.length with
  | 0 => return platform
  | errors => throw { cause := .invalidPlatform path errors }

/-- Finds a platform by name. -/
def findPlatform (host : Host m) (name : String) : Session m Platform := do
  match Platform.builtin? name with
  | some platform => return platform
  | none =>
    let activity := Activity.scanning (FileStore.platformDirectory host.directory)
    let found ← settle (some activity) .file (← ask (host.files.discover host.directory))
    match found.lookup name with
    | some path => loadChecked host path
    | none => throw { cause := .unknownPlatform name }

/-- Finds the platform of a source. -/
def PlatformSource.find (host : Host m) : PlatformSource → Session m Platform
  | .file path => loadChecked host path
  | .named name => findPlatform host name

/-! ## Listings -/

/-- The text filled up with spaces on the right to a width. -/
def fillRight (width : Nat) (s : String) : String :=
  s ++ String.ofList (List.replicate (width - s.length) ' ')

/-- A row of a listing. -/
def row (name description : String) : String := s!"  {fillRight 12 name} {description}\n"

/-- The listing of the built-in platforms. -/
def builtinListing : String :=
  "Built-in platforms:\n\n" ++ String.join (Platform.catalogue.map fun (p, d) => row p.name d)

/-- The listing of the platforms of a project, empty if there are none. -/
def projectListing (found : List (String × String)) : String :=
  if found.isEmpty then ""
  else "\nProject platforms:\n\n" ++ String.join (found.map fun (name, path) => row name path)

/-- The listing of passes. -/
def passListing (names : List String) : String :=
  "Passes (reference CPU backend):\n\n" ++ String.join (names.map fun name => s!"  {name}\n") ++
  "\nUse 'ietc lower --passes a,b,c' to run an explicit sequence.\n"

/-- The description of a platform for readers. -/
def describe (p : Platform) : String :=
  s!"=== Platform: {p.name} ===\n" ++
  s!"  Class:       {p.family.display}\n" ++
  s!"  ISA:         {p.vectorUnit.title}\n" ++
  s!"  Cores:       {p.cores.toNat} ({p.logicalCores.toNat} logical)\n" ++
  s!"  SIMD width:  {p.vectorBytes.toNat} bytes\n" ++
  s!"  Block levels: {p.blockLevels.toNat}\n"

/-! ## Commands -/

/-- Lists the built-in platforms and those of the project. -/
def listPlatforms (host : Host m) : Session m Unit := do
  print builtinListing
  let found ← settle none .file (← ask (host.files.discover host.directory))
  print (projectListing found)
  print "\nUse 'ietc platform describe <name>' for details.\n"

/-- Describes a platform. -/
def describePlatform (host : Host m) (name : String) (format : Option String) :
    Session m Unit := do
  let platform ← findPlatform host name
  match format with
  | none => print (describe platform)
  | some "toml" => print platform.definition
  | some other => throw { cause := .unknownFormat other }

/-- Lists the passes. -/
def listPasses : Session m Unit := print (passListing Pass.Library.processor.names)

end LoopLowering.CommandLine
