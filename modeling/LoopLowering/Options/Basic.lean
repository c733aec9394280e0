/-
  Lowering options: what the passes read.

  A caller supplies OVERRIDES, a list of keys and values in the order given.  They are merged over the
  defaults of a configuration:

    1.  later overrides win over earlier ones;
    2.  a recognized key with the wrong kind of value stops the merge with an error, even if a later
        override of that key would have been fine;
    3.  a key that is not recognized is dropped and noted.

  The merge also tells which keys it dropped when it fails, since each was warned about by then.
-/
import LoopLowering.Options.Value
import LoopLowering.Settings.Configuration
import LoopLowering.Text.Pieces

namespace LoopLowering

open LoopLowering.Text

/-- The options of one lowering. -/
structure Options where
  /-- Whether innermost loops are blocked too. -/
  blockinner : Bool := false
  /-- The levels of blocking; without a number the platform decides. -/
  blocklevels : Option UInt32 := none
  /-- Whether shared-memory parallelism is generated. -/
  openmp : Bool := false
  /-- Whether distributed-memory parallelism is generated. -/
  mpi : Bool := false
  deriving DecidableEq, Repr, Inhabited

/-- The options that a configuration stands for. -/
def Options.ofConfiguration (c : Configuration) : Options where
  blockinner := c.blocking.blockinner.getD false
  blocklevels := c.blocking.blocklevels
  openmp := c.openmp
  mpi := c.mpi

/-- An option with a value that does not suit it. -/
structure InvalidOption where
  key : String
  /-- What would have suited. -/
  expected : String
  found : String
  deriving DecidableEq, Repr

/-- The complaint about an option. -/
def InvalidOption.message (e : InvalidOption) : String :=
  s!"option `{e.key}` expects {e.expected}, got {e.found}"

/-! ## Overrides -/

/-- An override: a key and the value supplied for it. -/
abbrev Override := String × OptionValue

/-- Reads an assignment: a key and a value with an equals sign between them, or a key alone, which
    stands for the value true.  Blanks around both are dropped. -/
def Override.parse (assignment : String) : Except InvalidOption Override :=
  match cutAt '=' assignment.toList with
  | none => .ok (trim assignment, .bool true)
  | some (key, value) =>
    let key := String.ofList (trimChars key)
    match OptionValue.ofTrimmed? (trimChars value) with
    | some v => .ok (key, v)
    | none =>
      .error ⟨key, "a boolean, an integer, or `none`", String.ofList (trimChars value)⟩

/-- Reads assignments up to the first that cannot be read. -/
def Override.parseAll (assignments : List String) : Except InvalidOption (List Override) :=
  assignments.mapM Override.parse

/-! ## Merging -/

namespace Options

/-- The complaint about a value that does not suit. -/
def unsuitable (key expected : String) (v : OptionValue) : InvalidOption := ⟨key, expected, v.display⟩

/-- The boolean that an override of a switch carries. -/
def switch (key : String) : OptionValue → Except InvalidOption Bool
  | .bool b => .ok b
  | v => .error (unsuitable key "a boolean" v)

/-- The number of levels that an override carries. -/
def levels (key : String) : OptionValue → Except InvalidOption (Option UInt32)
  | .unset => .ok none
  | .int i =>
    if 0 ≤ i.toInt ∧ i.toInt.toNat < UInt32.size then .ok (some (UInt32.ofNat i.toInt.toNat))
    else .error (unsuitable key "a non-negative integer" (.int i))
  | v => .error (unsuitable key "a non-negative integer" v)

/-- The options with one override applied, or nothing if its key is not recognized. -/
def override (o : Options) : Override → Except InvalidOption (Option Options)
  | (key, v) =>
    match key with
    | "blockinner" => do return some { o with blockinner := ← switch key v }
    | "openmp" => do return some { o with openmp := ← switch key v }
    | "mpi" => do return some { o with mpi := ← switch key v }
    | "blocklevels" => do return some { o with blocklevels := ← levels key v }
    | _ => return none

/-- What a merge leads to: the keys dropped on the way, and the options or the error that ended it. -/
structure Merge where
  ignored : List String
  result : Except InvalidOption Options

/-- Merges overrides over options. -/
def merge (o : Options) : List Override → Merge
  | [] => ⟨[], .ok o⟩
  | (key, v) :: rest =>
    match o.override (key, v) with
    | .error e => ⟨[], .error e⟩
    | .ok (some o) => o.merge rest
    | .ok none =>
      let later := o.merge rest
      ⟨key :: later.ignored, later.result⟩

end Options

end LoopLowering
