/-
  Platform definition files.

  A definition is a TOML file with seven fields, all of them required; the class is a record of its tag
  and its lineage.  Reading takes whatever spells these fields (`Toml.Value.record?`) and does not ask
  whether the platform makes sense.

  Writing is canonical: the plain fields in a fixed order, then the table of the class.  A list of at
  most one text stands on one line, a longer one has each text on a line of its own.
-/
import LoopLowering.Platform.Basic
import LoopLowering.Toml.Reader
import LoopLowering.Toml.Record
import LoopLowering.Text.Decimal

namespace LoopLowering

open LoopLowering.Text

/-- Reads a class. -/
def PlatformClass.ofToml? (v : Toml.Value) : Option PlatformClass := do
  let fields ← v.record? ["tag", "lineage"]
  return ⟨← fields.required? "tag" Toml.Value.text?, ← fields.required? "lineage" Toml.Value.texts?⟩

namespace Platform

/-- Reads a platform from the fields of its file. -/
def ofToml? (fields : Toml.Fields) : Option Platform := do
  return {
    name := ← fields.required? "name" Toml.Value.text?
    family := ← fields.required? "class" PlatformClass.ofToml?
    vectorUnit := ← fields.required? "isa" fun v => v.name?.bind VectorUnit.ofName?
    cores := ← fields.required? "cores-physical" Toml.Value.word32?
    threadsPerCore := ← fields.required? "threads-per-core" Toml.Value.word32?
    vectorBytes := ← fields.required? "simd-reg-bytes" Toml.Value.word32?
    blockLevels := ← fields.required? "default-block-levels" Toml.Value.word32?
  }

/-- Reads a platform definition. -/
def read? (s : String) : Option Platform := (Toml.read? s).bind ofToml?

/-! ## Writing -/

/-- The text of a string. -/
def quoted (s : String) : List Char := Toml.Quoted.write s.toList

/-- The text of a number. -/
def decimal (n : UInt32) : List Char := Decimal.digits n.toNat

/-- The text of a list of strings. -/
def quotedList : List String → List Char
  | [] => ['[', ']']
  | [s] => '[' :: quoted s ++ [']']
  | items => '[' :: '\n' :: items.flatMap (fun s => [' ', ' ', ' ', ' '] ++ quoted s ++ [',', '\n']) ++ [']']

/-- The line of a field. -/
def fieldLine (key : String) (value : List Char) : List Char :=
  key.toList ++ [' ', '=', ' '] ++ value ++ ['\n']

/-- The characters of a platform definition. -/
def definitionChars (p : Platform) : List Char :=
  fieldLine "name" (quoted p.name) ++
  fieldLine "isa" (quoted p.vectorUnit.name) ++
  fieldLine "cores-physical" (decimal p.cores) ++
  fieldLine "threads-per-core" (decimal p.threadsPerCore) ++
  fieldLine "simd-reg-bytes" (decimal p.vectorBytes) ++
  fieldLine "default-block-levels" (decimal p.blockLevels) ++
  ['\n'] ++ "[class]\n".toList ++
  fieldLine "tag" (quoted p.family.tag) ++
  fieldLine "lineage" (quotedList p.family.lineage)

/-- The text of a platform definition. -/
def definition (p : Platform) : String := String.ofList p.definitionChars

end Platform

end LoopLowering
