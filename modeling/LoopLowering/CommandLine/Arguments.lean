/-
  Reading the arguments of the program.

  A command is reached through LEVELS: the program itself, then `lower`, `platform` or `passes`, and below
  `platform` again `list` or `describe`.  Each level has

    * SWITCHES, which take no value: `--help` everywhere, `--version` at the top, and the pair `--quiet`
      and `--verbose`, which may stand at any level but not both at the same one;
    * OPTIONS, which take one: `--option value` or `--option=value`.  Only the second way admits a value
      that begins with a hyphen;
    * WORDS: the name of a level below, or what the command is about.

  After `--` everything is a word, and none of them leads to another level.

  Arguments are read from left to right, and the first that settles the matter does so: `--help`,
  `--version`, `help` or the first misuse.  What concerns several arguments (a missing one, two that
  exclude each other) is looked at in the end.
-/
import LoopLowering.CommandLine.Command
import LoopLowering.Text.Pieces

namespace LoopLowering.CommandLine

/-! ## Levels -/

/-- A place in the tree of commands. -/
inductive Level where
  | top
  | lower
  | platform
  | list
  | describe
  | passes
  deriving DecidableEq, Repr

/-- A thing that takes no value. -/
inductive Switch where
  | help
  | version
  | quiet
  | verbose
  deriving DecidableEq, Repr

/-- What values an option takes. -/
inductive ValueRule where
  /-- Any text, once. -/
  | text
  /-- A text that is not empty, once. -/
  | path
  /-- Any text, as often as wanted. -/
  | repeated
  deriving DecidableEq, Repr

namespace Level

/-- The levels below by name. -/
def below : Level → List (String × Level)
  | top => [("lower", lower), ("platform", platform), ("passes", passes)]
  | platform => [("list", list), ("describe", describe)]
  | _ => []

/-- The options by name. -/
def options : Level → List (String × ValueRule)
  | lower =>
    [("input", .path), ("platform", .text), ("platform-file", .path), ("mode", .text),
     ("passes", .text), ("option", .repeated), ("config", .path), ("profiling", .text),
     ("output", .path)]
  | describe => [("format", .text)]
  | _ => []

/-- The pairs of options that exclude each other. -/
def exclusions : Level → List (String × String)
  | lower => [("platform", "platform-file"), ("mode", "passes")]
  | _ => []

/-- How many words the command is about. -/
def words : Level → Nat
  | describe => 1
  | _ => 0

/-- The switches by name. -/
def switches (l : Level) : List (String × Switch) :=
  [("help", .help), ("quiet", .quiet), ("verbose", .verbose)] ++
    (if l = top then [("version", .version)] else [])

/-- The switches by letter. -/
def letters (l : Level) : List (Char × Switch) :=
  [('h', .help), ('q', .quiet), ('v', .verbose)] ++ (if l = top then [('V', .version)] else [])

end Level

/-! ## What can be wrong -/

/-- A way of using the program wrongly. -/
inductive Misuse where
  /-- An argument that means nothing where it stands. -/
  | unexpected (argument : String)
  /-- An option without its value. -/
  | valueMissing (option : String)
  /-- A switch with a value. -/
  | valueUnwanted (switch : String)
  /-- Something given twice that can be given once. -/
  | repeated (argument : String)
  /-- Two things that exclude each other. -/
  | exclusive (first second : String)
  /-- Something that has to be given. -/
  | missing (argument : String)
  deriving DecidableEq, Repr

/-- The wording of a misuse. -/
def Misuse.message : Misuse → String
  | unexpected argument => s!"unexpected argument '{argument}'"
  | valueMissing option => s!"a value is required for '--{option}'"
  | valueUnwanted switch => s!"'--{switch}' takes no value"
  | repeated argument => s!"'--{argument}' cannot be used more than once"
  | exclusive first second => s!"'--{first}' cannot be used with '--{second}'"
  | missing argument => s!"{argument} is required"

/-- What ends the reading of arguments early. -/
inductive Halt where
  | help
  | version
  | misuse (m : Misuse)
  deriving DecidableEq, Repr

/-! ## Single arguments -/

/-- The shapes of an argument. -/
inductive Shape where
  /-- The argument `--`. -/
  | terminator
  /-- A name with or without a value: `--name`, `--name=value`. -/
  | long (name : String) (value : Option String)
  /-- Letters in a row: `-abc`. -/
  | letters (cs : List Char)
  /-- Anything else, `-` included. -/
  | word
  deriving DecidableEq, Repr

/-- The shape of an argument. -/
def Shape.of (argument : String) : Shape :=
  match argument.toList with
  | ['-', '-'] => .terminator
  | '-' :: '-' :: cs =>
    match Text.cutAt '=' cs with
    | some (name, value) => .long (String.ofList name) (some (String.ofList value))
    | none => .long (String.ofList cs) none
  | '-' :: c :: cs => .letters (c :: cs)
  | _ => .word

/-! ## Reading on -/

/-- What was given at one level. -/
structure Given where
  quiet : Bool := false
  verbose : Nat := 0
  /-- The options with their values, in order. -/
  values : List (String × String) := []
  words : List String := []
  deriving DecidableEq, Repr

namespace Given

/-- The first value of an option. -/
def value? (g : Given) (option : String) : Option String := g.values.lookup option

/-- All values of an option, in order. -/
def allValues (g : Given) (option : String) : List String :=
  g.values.filterMap fun (name, value) => if name = option then some value else none

end Given

/-- How far the reading has come. -/
structure Progress where
  level : Level := .top
  /-- What was given at this level. -/
  here : Given := {}
  /-- What was given at the levels above, the nearest first. -/
  above : List Given := []
  /-- An option that waits for its value. -/
  awaiting : Option (String × ValueRule) := none
  /-- Whether there was a `--`. -/
  verbatim : Bool := false
  deriving DecidableEq, Repr

namespace Progress

/-- Whether a word can name a level below. -/
def expectsLevel (p : Progress) : Bool := !p.verbatim && !p.level.below.isEmpty

/-- Gives an option a value. -/
def assign (p : Progress) (option : String) (rule : ValueRule) (value : String) :
    Except Halt Progress :=
  if rule ≠ .repeated ∧ (p.here.value? option).isSome then .error (.misuse (.repeated option))
  else if rule = .path ∧ value = "" then .error (.misuse (.valueMissing option))
  else .ok { p with here := { p.here with values := p.here.values ++ [(option, value)] }, awaiting := none }

/-- Turns a switch on. -/
def turnOn (p : Progress) : Switch → Except Halt Progress
  | .help => .error .help
  | .version => .error .version
  | .quiet =>
    if p.here.quiet then .error (.misuse (.repeated "quiet"))
    else .ok { p with here := { p.here with quiet := true } }
  | .verbose => .ok { p with here := { p.here with verbose := p.here.verbose + 1 } }

/-- Turns on the switch of a letter. -/
def letter (p : Progress) (c : Char) : Except Halt Progress :=
  match p.level.letters.lookup c with
  | some switch => p.turnOn switch
  | none => .error (.misuse (.unexpected (String.ofList ['-', c])))

/-- Takes a switch or an option by name. -/
def named (p : Progress) (name : String) (value : Option String) : Except Halt Progress :=
  match p.level.switches.lookup name, p.level.options.lookup name, value with
  | some switch, _, none => p.turnOn switch
  | some _, _, some _ => .error (.misuse (.valueUnwanted name))
  | none, some rule, none => .ok { p with awaiting := some (name, rule) }
  | none, some rule, some value => p.assign name rule value
  | none, none, _ => .error (.misuse (.unexpected ("--" ++ name)))

/-- Takes a word that leads to no other level. -/
def word (p : Progress) (w : String) : Except Halt Progress :=
  if p.here.words.length < p.level.words then
    .ok { p with here := { p.here with words := p.here.words ++ [w] } }
  else .error (.misuse (.unexpected w))

/-- Takes the next argument. -/
def step (p : Progress) (argument : String) : Except Halt Progress :=
  if p.verbatim then p.word argument
  else
    match p.awaiting, Shape.of argument with
    -- A value of its own must not look like a switch or an option.
    | some (option, rule), .word => p.assign option rule argument
    | some (option, _), _ => .error (.misuse (.valueMissing option))
    | none, .terminator => .ok { p with verbatim := true }
    | none, .long name value => p.named name value
    | none, .letters cs => cs.foldlM letter p
    | none, .word =>
      match p.level.below.lookup argument with
      | some level => .ok { p with level, here := {}, above := p.here :: p.above }
      | none => p.word argument

/-- What `help` leads to, given the words behind it: they have to name a level, or be `help` itself. -/
def helpOn (level : Level) : List String → Halt
  | [] => .help
  | w :: rest =>
    match level.below.lookup w with
    | some next => helpOn next rest
    | none =>
      if w = "help" ∧ !level.below.isEmpty ∧ rest.isEmpty then .help else .misuse (.unexpected w)

/-- Takes all arguments. -/
def steps (p : Progress) : List String → Except Halt Progress
  | [] => .ok p
  | argument :: rest =>
    -- All words behind `help` belong to it.
    if p.expectsLevel ∧ argument = "help" then .error (helpOn p.level rest)
    else
      match p.step argument with
      | .error h => .error h
      | .ok p => p.steps rest

/-! ## The end -/

/-- What the arguments of a level miss or contradict, if anything. -/
def flaw? (p : Progress) : Option Misuse :=
  match p.awaiting with
  | some (option, _) => some (.valueMissing option)
  | none =>
    if (p.here :: p.above).any fun g => g.quiet && g.verbose ≠ 0 then
      some (.exclusive "quiet" "verbose")
    else
      (p.level.exclusions.find? fun (a, b) =>
        (p.here.value? a).isSome && (p.here.value? b).isSome).map fun (a, b) => .exclusive a b

/-- The command of the level that was reached. -/
def command (p : Progress) : Except Misuse Command :=
  match p.level with
  | .top => .error (.missing "a command")
  | .platform => .error (.missing "a command")
  | .passes => .ok .listPasses
  | .list => .ok .listPlatforms
  | .describe =>
    match p.here.words with
    | name :: _ => .ok (.describePlatform name (p.here.value? "format"))
    | [] => .error (.missing "the name of a platform")
  | .lower =>
    match p.here.value? "input" with
    | none => .error (.missing "'--input'")
    | some input => .ok <| .lower {
        input, platform := p.here.value? "platform"
        platformFile := p.here.value? "platform-file"
        mode := p.here.value? "mode", passes := p.here.value? "passes"
        assignments := p.here.allValues "option"
        configuration := p.here.value? "config"
        profiling := p.here.value? "profiling", output := p.here.value? "output" }

/-- The least severity that is logged. -/
def least (p : Progress) : Severity :=
  let levels := p.here :: p.above
  if levels.any Given.quiet then .warning
  else if levels.any fun g => g.verbose ≠ 0 then .debug
  else .info

/-- Reads the invocation off the last level. -/
def finish (p : Progress) : Except Misuse Invocation := do
  match p.flaw? with
  | some m => throw m
  | none => return ⟨p.least, ← p.command⟩

end Progress

/-- Reads the arguments of the program. -/
def Invocation.read (arguments : List String) : Except Halt Invocation := do
  let start : Progress := {}
  ((← start.steps arguments).finish).mapError Halt.misuse

end LoopLowering.CommandLine
