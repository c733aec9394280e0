/-
  Platform definitions: reading undoes writing.

  A definition is written as two groups of lines with a header between them.  Every line is sound,
  whatever texts and numbers the platform has (`plainLines_sound`, `familyLines_sound`), so the groups
  are read to the fields of the file and of its table (`ofChars?_definitionChars`).  Looking these up
  gives the platform back (`ofToml?_fields`).
-/
import LoopLowering.Platform.Definition
import LoopLowering.Proofs.Toml.Reading

namespace LoopLowering.Platform

open LoopLowering.Toml LoopLowering.Toml.Reader

/-! ## Lines -/

/-- The value of a word of 32 bits. -/
def wordValue (n : UInt32) : Value := .integer n.toNat

/-- The lines in front of the header. -/
def plainLines (p : Platform) : List Line :=
  [⟨"name", quoted p.name, .string p.name⟩,
   ⟨"isa", quoted p.vectorUnit.name, .string p.vectorUnit.name⟩,
   ⟨"cores-physical", decimal p.cores, wordValue p.cores⟩,
   ⟨"threads-per-core", decimal p.threadsPerCore, wordValue p.threadsPerCore⟩,
   ⟨"simd-reg-bytes", decimal p.vectorBytes, wordValue p.vectorBytes⟩,
   ⟨"default-block-levels", decimal p.blockLevels, wordValue p.blockLevels⟩]

/-- The lines behind the header. -/
def familyLines (f : PlatformClass) : List Line :=
  [⟨"tag", quoted f.tag, .string f.tag⟩,
   ⟨"lineage", quotedList f.lineage, .array (f.lineage.map .string)⟩]

/-- The fields of a definition. -/
def fields (p : Platform) : Fields :=
  p.plainLines.map Line.field ++
    [("class", .table .header ((familyLines p.family).map Line.field))]

theorem denotes_quoted (s : String) : Denotes (quoted s) (.string s) := by
  have h := denotes_write s.toList
  rwa [String.ofList_toList] at h

theorem denotes_decimal (n : UInt32) : Denotes (decimal n) (wordValue n) := by
  refine denotes_digits ?_
  have small : n.toNat < 2 ^ 32 := n.toNat_lt
  have large : Int64.maxValue.toInt = 2 ^ 63 - 1 := by decide
  omega

theorem denotes_quotedList (texts : List String) :
    Denotes (quotedList texts) (.array (texts.map .string)) := by
  match texts with
  | [] => exact denotes_nil
  | [s] => exact denotes_single s
  | s :: t :: others => exact denotes_lines (s :: t :: others)

theorem plainLines_sound (p : Platform) : ∀ l ∈ p.plainLines, l.Sound := by
  simp only [plainLines, List.forall_mem_cons]
  exact ⟨.of (by decide) (denotes_quoted _), .of (by decide) (denotes_quoted _),
    .of (by decide) (denotes_decimal _), .of (by decide) (denotes_decimal _),
    .of (by decide) (denotes_decimal _), .of (by decide) (denotes_decimal _),
    fun _ h => absurd h List.not_mem_nil⟩

theorem familyLines_sound (f : PlatformClass) : ∀ l ∈ familyLines f, l.Sound := by
  simp only [familyLines, List.forall_mem_cons]
  exact ⟨.of (by decide) (denotes_quoted _), .of (by decide) (denotes_quotedList _),
    fun _ h => absurd h List.not_mem_nil⟩

/-- A definition is its lines with the header between them. -/
theorem definitionChars_eq (p : Platform) :
    p.definitionChars = p.plainLines.flatMap Line.chars ++
      '\n' :: '[' :: ("class".toList ++ ']' :: '\n' :: ((familyLines p.family).flatMap Line.chars ++ [])) := by
  simp [definitionChars, plainLines, familyLines, Line.chars, fieldLine]

/-! ## Reading -/

/-- The names of the fields, in the order of the file. -/
theorem keys_plainLines (p : Platform) : p.plainLines.map Line.key =
    ["name", "isa", "cores-physical", "threads-per-core", "simd-reg-bytes", "default-block-levels"] := rfl

theorem keys_familyLines (f : PlatformClass) : (familyLines f).map Line.key = ["tag", "lineage"] := rfl

/-- The file has no field of the name of its table. -/
theorem get?_class (p : Platform) : Fields.get? (p.plainLines.map Line.field) "class" = none := by
  refine get?_eq_none ?_
  show "class" ∉ p.plainLines.map Line.key
  rw [keys_plainLines]
  decide

/-- Behind the plain lines comes an empty one, which is passed over, and the header, which opens the
    table of the class. -/
theorem statements?_header (p : Platform) (fuel : Nat) (rest : List Char) :
    statements? (fuel + 1 + 1) { current := p.plainLines.map Line.field }
        ('\n' :: '[' :: ("class".toList ++ ']' :: '\n' :: rest)) =
      statements? fuel
        { done := p.plainLines.map Line.field, current := [], target := .table [] "class" } rest := by
  rw [statements?_step (skipSpace_cons (by decide) _) (List.cons_ne_nil _ _) rfl,
    statements?_step (skipSpace_cons (by decide) _) (List.cons_ne_nil _ _)
      (statement?_header (by decide) rfl p.get?_class rest)]

/-- The draft that the lines of a definition make. -/
def draft (p : Platform) : Draft where
  done := p.plainLines.map Line.field
  current := (familyLines p.family).map Line.field
  target := .table [] "class"

/-- The lines of a definition are read in eleven steps: eight fields, the empty line, the header, and
    the end. -/
theorem statements?_definitionChars (p : Platform) (fuel : Nat) :
    statements? (11 + fuel) {} p.definitionChars = some p.draft := by
  have steps : 11 + fuel =
      p.plainLines.length + ((familyLines p.family).length + (fuel + 1) + 1 + 1) := by
    simp only [plainLines, familyLines, List.length_cons, List.length_nil]
    omega
  rw [steps, definitionChars_eq, statements?_lines (plainLines_sound p) _ _ ?plain]
  case plain =>
    simp only [List.map_nil, List.nil_append, keys_plainLines]
    decide
  simp only [List.nil_append]
  rw [statements?_header, statements?_lines (familyLines_sound p.family) _ _ ?family]
  case family =>
    simp only [List.map_nil, List.nil_append, keys_familyLines]
    decide
  rfl

/-- The draft is complete when the table is in its place. -/
theorem close?_draft (p : Platform) : p.draft.close? = some p.fields := by
  simp [draft, Draft.close?, edit, Fields.add?, get?_class, fields]

/-- **The file of a definition is read to its fields.** -/
theorem ofChars?_definitionChars (p : Platform) : ofChars? p.definitionChars = some p.fields := by
  have unified : unify p.definitionChars = p.definitionChars := by
    refine unify_of_no_return (by simp [definitionChars, fieldLine]) ?_
    simp [definitionChars_eq, no_return_lines (plainLines_sound p),
      no_return_lines (familyLines_sound p.family)]
  obtain ⟨fuel, steps⟩ : ∃ fuel, p.definitionChars.length + 1 = 11 + fuel := by
    have long : 10 ≤ p.definitionChars.length := by
      simp [definitionChars, fieldLine]
      omega
    exact ⟨p.definitionChars.length - 10, by omega⟩
  rw [ofChars?]
  simp only [unified, steps, statements?_definitionChars, Option.bind_eq_bind, Option.bind_some]
  exact close?_draft p

theorem texts?_strings (texts : List String) : (Value.array (texts.map .string)).texts? = some texts := by
  rw [Value.texts?, List.mapM_map]
  induction texts with
  | nil => rfl
  | cons s others ih => simp [Value.text?, ih]

theorem word32?_wordValue (n : UInt32) : (wordValue n).word32? = some n := by
  have small : n.toNat < UInt32.size := n.toNat_lt
  simp [wordValue, Value.word32?, small]

/-- The fields of a definition make the platform. -/
theorem ofToml?_fields (p : Platform) : ofToml? p.fields = some p := by
  have family : PlatformClass.ofToml? (.table .header ((familyLines p.family).map Line.field)) =
      some p.family := by
    simp [PlatformClass.ofToml?, Value.record?, familyLines, Line.field, Fields.required?, Fields.get?,
      Value.text?, texts?_strings]
  simp [ofToml?, fields, plainLines, Line.field, Fields.required?, Fields.get?, Value.text?, Value.name?,
    word32?_wordValue, family]

/-- **Reading undoes writing**, for every platform. -/
theorem read?_definition (p : Platform) : read? p.definition = some p := by
  rw [read?, Toml.read?, definition, String.toList_ofList, ofChars?_definitionChars]
  exact ofToml?_fields p

end LoopLowering.Platform
