/-
  The log of the command line.

  A RECORD of the log has a severity, the part of the program that it comes from, a message and fields.
  Most records of a lowering also have its SCOPE, the platform and the mode.  A record becomes

      INFO lower{platform=skx mode=noop}: iet::profiling: passes:  (elapsed 0.00 s)

  Lines may be PAINTED for a terminal: braces are bold, names of fields slanted, and what separates is
  dim.  The values of a scope stand as they are, so a line break in the name of a platform breaks the line.
-/
import LoopLowering.Lowering
import LoopLowering.Tree.Format
import LoopLowering.Text.Visible

namespace LoopLowering.CommandLine

open LoopLowering.Text

/-- How much a record matters. -/
inductive Severity where
  | warning
  | info
  | debug
  deriving DecidableEq, Repr

namespace Severity

/-- The word for a severity. -/
def word : Severity → String
  | warning => "WARN"
  | info => "INFO"
  | debug => "DEBUG"

/-- The place in the order, the weightiest first. -/
def rank : Severity → Nat
  | warning => 0
  | info => 1
  | debug => 2

end Severity

/-- What the records of one lowering have in common. -/
structure LogScope where
  platform : String
  mode : Mode
  deriving DecidableEq, Repr

/-- A record of the log. -/
structure LogRecord where
  severity : Severity
  scope : Option LogScope := none
  /-- The part of the program that it comes from. -/
  source : String
  message : String
  /-- The names and the texts of the fields. -/
  fields : List (String × String) := []
  deriving DecidableEq, Repr

/-! ## Lines -/

/-- A text in a style of the terminal, if lines are painted. -/
def styled (painted : Bool) (style : Nat) (text : String) : String :=
  if painted then s!"\x1b[{style}m{text}\x1b[0m" else text

/-- A bold text. -/
def bold (painted : Bool) (text : String) : String := styled painted 1 text

/-- A dim text. -/
def dim (painted : Bool) (text : String) : String := styled painted 2 text

/-- A slanted text. -/
def slanted (painted : Bool) (text : String) : String := styled painted 3 text

/-- A name with its value. -/
def fieldText (painted : Bool) (field : String × String) : String :=
  slanted painted field.1 ++ dim painted "=" ++ field.2

/-- The text of a scope. -/
def LogScope.text (painted : Bool) (s : LogScope) : String :=
  let fields := [("platform", s.platform), ("mode", s.mode.display)].map (fieldText painted)
  bold painted "lower" ++ bold painted "\x7b" ++ " ".intercalate fields ++ bold painted "\x7d" ++
    dim painted ":" ++ " "

/-- The line of a record. -/
def LogRecord.line (painted : Bool) (r : LogRecord) : String :=
  r.severity.word ++ " " ++ ((r.scope.map (LogScope.text painted)).getD "") ++
    dim painted r.source ++ dim painted ":" ++ " " ++
    " ".intercalate (r.message :: r.fields.map (fieldText painted))

/-! ## Lowerings -/

namespace LogRecord

/-- The record of an event.  Warnings come before a lowering knows its mode, and have no scope. -/
def ofEvent (scope : Option LogScope) : Event → LogRecord
  | .optionIgnored key =>
    { severity := .warning, source := "iet_lower::options"
      message := "illegal lowering option; ignored", fields := [("option", Visible.quote key)] }
  | .classReplaced tag =>
    { severity := .warning, source := "iet_lower::registry"
      message := "platform class registered again; replacing its rewriters"
      fields := [("class", Visible.quote tag)] }
  | .profile report =>
    { severity := .info, scope, source := "iet::profiling", message := report }

/-- A detail of a lowering. -/
def detail (scope : LogScope) (message : String) (fields : List (String × String)) : LogRecord :=
  { severity := .debug, scope, source := "iet_lower::lower", message, fields }

/-- The record of a key that nothing is registered for. -/
def ofFallback (l : Lowerer) (p : Platform) (scope : LogScope) : List LogRecord :=
  match scope.mode.key? with
  | none => []
  | some key =>
    if (l.registry.factory? p key).isSome then []
    else
      [detail scope "mode not registered; trying it as a custom pass sequence" [("mode", key.display)]]

/-- The record of a pass that has run. -/
def ofEntry (l : Lowerer) (scope : LogScope) (e : Ledger.Entry) : LogRecord :=
  { detail scope "pass complete"
      [("pass", Visible.quote e.label), ("elapsed_s", l.seconds e.elapsed.nanos)] with
    source := "iet_lower::target" }

/-- The records of a target that runs on a tree: two before, one for each pass that succeeds, and one at
    the end if there was no failure. -/
def ofTarget (l : Lowerer) (scope : LogScope) (target : Target) (root : Node) : List LogRecord :=
  let names := target.passNames.map Visible.quote
  let reached := target.reach l.elapsed root
  [detail scope "rewriter ready" [("passes", "[" ++ ", ".intercalate names ++ "]")],
    detail scope "input" [("hash", root.fingerprint)]] ++
    reached.ledger.entries.map (ofEntry l scope) ++
    match target.process l.elapsed root with
    | .error _ => []
    | .ok run => [detail scope "output" [("hash", run.unit.root.fingerprint)]]

/-- What happens in a lowering between its warnings and its profile report. -/
def details (l : Lowerer) (root : Node) (p : Platform) (request : Option ModeRequest)
    (overrides : List Override) : List LogRecord :=
  match ((Options.ofConfiguration l.configuration).merge overrides).result with
  | .error _ => []
  | .ok o =>
    let scope : LogScope := ⟨p.name, Mode.resolve request o⟩
    ofFallback l p scope ++
      match l.target scope.mode o p with
      | .error _ => []
      | .ok target => ofTarget l scope target root

/-- The records of a lowering in order. -/
def ofLowering (l : Lowerer) (root : Node) (p : Platform) (request : Option ModeRequest)
    (overrides : List Override) : List LogRecord :=
  let outcome := l.lower root p request overrides
  let (before, after) := outcome.events.partition Event.isWarning
  let scope := outcome.result.toOption.map fun lowered => ⟨p.name, lowered.mode⟩
  before.map (ofEvent none) ++ details l root p request overrides ++ after.map (ofEvent scope)

end LogRecord

end LoopLowering.CommandLine
