/-
  The timing ledger of a run: which passes ran, in order, and how long each took.

  Every entry has a LABEL of its own.  A pass that runs for the first time is entered under its name;
  when that label is taken, numbers are tried behind the name, beginning with the number of times the
  pass has run already.  A label can also be taken by another pass whose name ends in digits, so the
  search goes on until a label is free (`firstFree`).  It never has to try more often than the ledger has
  entries, since each failure meets another entry.

  All times together may be too long for a duration, and then asking for their sum panics (`total`).
-/
import LoopLowering.Duration
import LoopLowering.Text.Decimal
import LoopLowering.Settings.Profiling

namespace LoopLowering

open LoopLowering.Text

/-- An entry of the ledger. -/
structure Ledger.Entry where
  /-- The name of the entry, which no other entry has. -/
  label : String
  /-- The pass that ran. -/
  pass : String
  /-- The time it took. -/
  elapsed : Duration
  deriving DecidableEq, Repr

/-- The entries in the order in which the passes ran. -/
structure Ledger where
  entries : List Ledger.Entry := []
  deriving DecidableEq, Repr, Inhabited

namespace Ledger

/-! ## Looking up -/

/-- The labels in order. -/
def labels (l : Ledger) : List String := l.entries.map Entry.label

/-- The passes in order. -/
def passes (l : Ledger) : List String := l.entries.map Entry.pass

/-- The number of entries. -/
def size (l : Ledger) : Nat := l.entries.length

/-- Whether nothing ran. -/
def isEmpty (l : Ledger) : Bool := l.entries.isEmpty

/-- The time entered under a label. -/
def get? (l : Ledger) (label : String) : Option Duration :=
  (l.entries.find? fun e => e.label = label).map Entry.elapsed

/-- The sum of all times. -/
def total (l : Ledger) : Duration.Sum := Duration.sum (l.entries.map Entry.elapsed)

/-- The nanoseconds of all times together, which are those of `total` if that is a duration. -/
def nanos (l : Ledger) : Nat := Duration.nanosAll (l.entries.map Entry.elapsed)

theorem total_eq_fits {l : Ledger} {d : Duration} : l.total = .fits d ↔ d.nanos = l.nanos :=
  Duration.sum_eq_fits

theorem total_eq_panics {l : Ledger} : l.total = .panics ↔ Duration.limit ≤ l.nanos :=
  Duration.sum_eq_panics

/-! ## Recording -/

/-- A pass's name with a number behind it. -/
def numbered (pass : String) (n : Nat) : String := pass ++ String.ofList (Decimal.digits n)

/-- The first label that is not taken: `label`, or else the pass's name with the first suitable number
    from `next` on.  Gives up after `tries` taken labels. -/
def firstFree (taken : List String) (pass : String) (next : Nat) (label : String) : Nat → String
  | 0 => label
  | tries + 1 =>
    if label ∈ taken then firstFree taken pass (next + 1) (numbered pass next) tries else label

/-- The label that the next run of a pass gets. -/
def nextLabel (l : Ledger) (pass : String) : String :=
  firstFree l.labels pass (l.passes.count pass) pass l.size

/-- Enters a run of a pass. -/
def record (l : Ledger) (pass : String) (elapsed : Duration) : Ledger :=
  ⟨l.entries ++ [⟨l.nextLabel pass, pass, elapsed⟩]⟩

@[simp] theorem labels_record (l : Ledger) (pass : String) (elapsed : Duration) :
    (l.record pass elapsed).labels = l.labels ++ [l.nextLabel pass] := by
  simp [record, labels]

@[simp] theorem passes_record (l : Ledger) (pass : String) (elapsed : Duration) :
    (l.record pass elapsed).passes = l.passes ++ [pass] := by
  simp [record, passes]

/-! ## Reports -/

/-- The report on a ledger: at a detailed level a line for each pass and one for the sum, otherwise one
    line with the labels and the sum.  `seconds` writes a number of nanoseconds; the sum is written as it is,
    also where it is too long for a duration. -/
def profile (l : Ledger) (level : ProfilingLevel) (seconds : Nat → String) : String :=
  let total := seconds l.nanos
  if level.isDetailed then
    let rows := l.entries.map fun e =>
      let time := seconds e.elapsed.nanos
      s!"{e.pass} (elapsed: {time} s)"
    "\n     ".intercalate rows ++ s!"\n     [Total elapsed: {total} s]"
  else
    let labels := ",".intercalate l.labels
    s!"passes: {labels} (elapsed {total} s)"

end Ledger

end LoopLowering
