/-
  The value of a lowering option, as a caller supplies it.

  1.  A value is a boolean, a signed 64-bit integer, or the wish to UNSET the option.
  2.  `OptionValue.parse?` reads the right-hand side of an assignment: a word of a fixed list, else a
      decimal integer with at most one sign, blanks around it forgiven.
  3.  `OptionValue.display` writes a value so that reading it gives the value back
      (`parse?_display`).
-/
import LoopLowering.Text.Blank
import LoopLowering.Text.Decimal
import LoopLowering.Json.Strict

namespace LoopLowering

open LoopLowering.Text

/-- A value supplied for an option. -/
inductive OptionValue where
  | bool (b : Bool)
  | int (i : Int64)
  | unset
  deriving DecidableEq, Repr, Inhabited

namespace OptionValue

/-- The signed 64-bit integer that an integer is, if it is in range. -/
def word? (i : Int) : Option Int64 :=
  if Int64.minValue.toInt ≤ i ∧ i ≤ Int64.maxValue.toInt then some (Int64.ofInt i) else none

/-- Reads trimmed text. -/
def ofTrimmed? (cs : List Char) : Option OptionValue :=
  if cs ∈ ["true", "on", "yes"].map String.toList then some (bool true)
  else if cs ∈ ["false", "off", "no"].map String.toList then some (bool false)
  else if cs ∈ ["none", "unset"].map String.toList then some unset
  else ((Decimal.signed? cs).bind word?).map int

/-- Reads the right-hand side of an assignment. -/
def parse? (s : String) : Option OptionValue := ofTrimmed? (trimChars s.toList)

/-- The text of a value. -/
def display : OptionValue → String
  | bool true => "true"
  | bool false => "false"
  | int i => String.ofList (Decimal.signed i.toInt)
  | unset => "unset"

/-- Reads a value from JSON data: a boolean, an integer in range, or null for unset. -/
def ofJson? (j : Json) : Option OptionValue :=
  if j.isStrict Json.maxNesting then
    match j with
    | .bool b => some (bool b)
    | .null => some unset
    | j => (j.int?.bind word?).map int
  else none

/-! ## Reading undoes writing -/

theorem word?_toInt (i : Int64) : word? i.toInt = some i := by
  rw [word?, if_pos ⟨i.minValue_le_toInt, i.toInt_le⟩, Int64.ofInt_toInt]

/-- A written integer consists of digits and perhaps a minus sign. -/
theorem mem_signed {i : Int} {c : Char} (h : c ∈ Decimal.signed i) :
    c = '-' ∨ c.isDigit = true := by
  unfold Decimal.signed at h
  split at h
  · rcases List.mem_cons.1 h with h | h
    · exact Or.inl h
    · exact Or.inr (Decimal.isDigit_of_mem_digits h)
  · exact Or.inr (Decimal.isDigit_of_mem_digits h)

theorem isBlank_of_isDigit {c : Char} (h : c.isDigit = true) : isBlank c = false := by
  have hd : 48 ≤ c.toNat ∧ c.toNat ≤ 57 := by
    simpa [Char.isDigit, UInt32.le_iff_toNat_le] using h
  simp only [isBlank, inRanges, blankRanges, List.any_cons, List.any_nil, Bool.or_false,
    Bool.or_eq_false_iff, Bool.and_eq_false_iff, decide_eq_false_iff_not]
  omega

theorem trimmed_signed (i : Int) : Trimmed (Decimal.signed i) := by
  have blank : ∀ c ∈ Decimal.signed i, isBlank c = false := fun c hc => by
    rcases mem_signed hc with rfl | hd
    · decide
    · exact isBlank_of_isDigit hd
  exact ⟨fun c hc => blank c (List.mem_of_head? hc), fun c hc => blank c (List.mem_of_getLast? hc)⟩

/-- Words that each have a character foreign to numerals are no written integers. -/
theorem not_mem_signed {i : Int} {words : List String}
    (h : (words.all fun w => w.toList.any fun c => c != '-' && !c.isDigit) = true) :
    Decimal.signed i ∉ words.map String.toList := by
  intro hm
  obtain ⟨w, hw, e⟩ := List.mem_map.1 hm
  obtain ⟨c, hc, foreign⟩ := List.any_eq_true.1 (List.all_eq_true.1 h w hw)
  simp only [Bool.and_eq_true, bne_iff_ne, Bool.not_eq_true'] at foreign
  obtain ⟨hne, hd⟩ := foreign
  rcases mem_signed (i := i) (c := c) (e ▸ hc) with h | h
  · exact hne h
  · rw [hd] at h; exact absurd h (by decide)

/-- A written value reads back. -/
theorem parse?_display (v : OptionValue) : parse? v.display = some v := by
  rcases v with b | i | _
  · cases b <;> decide +kernel
  · have h1 : Decimal.signed i.toInt ∉ ["true", "on", "yes"].map String.toList :=
      not_mem_signed (by decide)
    have h2 : Decimal.signed i.toInt ∉ ["false", "off", "no"].map String.toList :=
      not_mem_signed (by decide)
    have h3 : Decimal.signed i.toInt ∉ ["none", "unset"].map String.toList :=
      not_mem_signed (by decide)
    rw [parse?, display, String.toList_ofList, trimChars_eq_self (trimmed_signed _), ofTrimmed?,
      if_neg h1, if_neg h2, if_neg h3]
    simp [word?_toInt]
  · decide +kernel

end OptionValue

end LoopLowering
