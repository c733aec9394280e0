/-
  The canonical form of a JSON value, and the fingerprint of its content.

  Two objects with the same fields in another order have the same content.  The canonical form has
  the fields of every object in increasing order of their keys; of a repeated key it keeps the last
  value.  The fingerprint digests the compact text of that form.
-/
import LoopLowering.Json.Printer
import LoopLowering.Digest.Sha256

namespace LoopLowering.Json

/-- A field of an object. -/
abbrev Field := Option String × Json

/-- Whether a field may stand before another: its key is not greater. -/
def Field.mayPrecede (a b : Field) : Bool := (compare a.1 b.1).isLE

/-- Keeps the last field of every run of fields with one key. -/
def lastOfRuns : List Field → List Field
  | [] => []
  | field :: rest =>
    match rest with
    | [] => [field]
    | next :: others =>
      if field.1 = next.1 then lastOfRuns (next :: others) else field :: lastOfRuns (next :: others)

/-- Fields in increasing order of their keys, with the last value of every key.  The sort keeps fields
    with one key as they were, so the last of a run is the last that was written. -/
def ordered (fields : List Field) : List Field := lastOfRuns (fields.mergeSort Field.mayPrecede)

mutual

/-- The canonical form of a value. -/
def canonical : Json → Json
  | .array items => .array (canonicalItems items)
  | .object fields => .object (ordered (canonicalFields fields))
  | .null => .null
  | .bool b => .bool b
  | .number n => .number n
  | .string s => .string s

/-- The canonical forms of the items of an array. -/
def canonicalItems : List Json → List Json
  | [] => []
  | v :: rest => canonical v :: canonicalItems rest

/-- Fields with the canonical forms of their values. -/
def canonicalFields : List (Option String × Json) → List (Option String × Json)
  | [] => []
  | (key, v) :: rest => (key, canonical v) :: canonicalFields rest

end

/-- The fingerprint of a value's content. -/
def fingerprint (j : Json) : String := Digest.Sha256.hexDigest j.canonical.compactText

end LoopLowering.Json
