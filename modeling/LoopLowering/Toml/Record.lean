/-
  Reading TOML values as data: numbers, lists of texts, records and names.

  A RECORD is a group of named fields.  It is written as a table, whose unknown fields do not matter,
  or as an array that has the values in the order of the fields, where elements too many do not matter
  either.  A date counts as a table without any known field.

  A NAME out of a fixed list is written as a string, or as a table that has nothing but the name as a
  key, with an empty table or array behind it.
-/
import LoopLowering.Toml.Value

namespace LoopLowering.Toml

/-- The fields that a value has as a record whose fields are `names`, in their order. -/
def Value.record? (names : List String) : Value → Option Fields
  | .table _ fields => some fields
  | .array items => some (names.zip items)
  | .tables elements => some (names.zip elements)
  | .datetime => some []
  | _ => none

/-- The text that a value is. -/
def Value.text? : Value → Option String
  | .string s => some s
  | _ => none

/-- The boolean that a value is. -/
def Value.bool? : Value → Option Bool
  | .boolean b => some b
  | _ => none

/-- The word of 32 bits that a value is. -/
def Value.word32? : Value → Option UInt32
  | .integer i => if 0 ≤ i ∧ i.toNat < UInt32.size then some (UInt32.ofNat i.toNat) else none
  | _ => none

/-- The list of texts that a value is. -/
def Value.texts? : Value → Option (List String)
  | .array items => items.mapM Value.text?
  | _ => none

/-- Whether a value is a table or an array without contents. -/
def Value.isHollow : Value → Bool
  | .table _ [] => true
  | .array [] => true
  | _ => false

/-- The name that a value is.  In a table it must stand alone. -/
def Value.name? : Value → Option String
  | .string s => some s
  | .table _ [(name, v)] => if v.isHollow then some name else none
  | _ => none

namespace Fields

/-- Reads a field that must be there. -/
def required? {α : Type} (fields : Fields) (key : String) (read : Value → Option α) : Option α :=
  (fields.get? key).bind read

/-- Reads a field that may be missing. -/
def optional? {α : Type} (fields : Fields) (key : String) (read : Value → Option α)
    (missing : α) : Option α :=
  match fields.get? key with
  | none => some missing
  | some v => read v

end Fields

end LoopLowering.Toml
