/-
  Blank characters and trimming.

  A character is BLANK when Unicode gives it the property White_Space.  That property has been
  stable for years and has 25 members, so they are listed here as ranges.  Every place of this
  library that forgives surrounding blanks (option assignments, option values, comma lists) uses
  this one set; the data formats have narrower sets of their own.
-/
import LoopLowering.Text.Ranges

namespace LoopLowering.Text

/-- The ranges of code points that have the property White_Space, both ends included. -/
def blankRanges : List (Nat × Nat) :=
  [(0x09, 0x0D), (0x20, 0x20), (0x85, 0x85), (0xA0, 0xA0), (0x1680, 0x1680), (0x2000, 0x200A),
   (0x2028, 0x2029), (0x202F, 0x202F), (0x205F, 0x205F), (0x3000, 0x3000)]

/-- Whether a character is white space. -/
def isBlank (c : Char) : Bool := inRanges blankRanges c

/-- The text without the blanks at its two ends. -/
def trimChars (cs : List Char) : List Char :=
  ((cs.dropWhile isBlank).reverse.dropWhile isBlank).reverse

/-- The text without the blanks at its two ends. -/
def trim (s : String) : String := String.ofList (trimChars s.toList)

/-- A text is trimmed when it neither begins nor ends with a blank. -/
def Trimmed (cs : List Char) : Prop :=
  (∀ c, cs.head? = some c → isBlank c = false) ∧ (∀ c, cs.getLast? = some c → isBlank c = false)

instance (cs : List Char) : Decidable (Trimmed cs) :=
  decidable_of_iff (cs.head?.all (fun c => !isBlank c) = true ∧ cs.getLast?.all (fun c => !isBlank c) = true)
    (by simp [Trimmed, Option.all_eq_true])

/-- Nothing is dropped from a text that does not begin with a blank. -/
theorem dropWhile_isBlank_eq_self {cs : List Char} (h : ∀ c, cs.head? = some c → isBlank c = false) :
    cs.dropWhile isBlank = cs := by
  cases cs with
  | nil => rfl
  | cons c rest => simp [h c rfl]

/-- Nothing but blanks is dropped, and what is left does not begin with one. -/
theorem isBlank_head_dropWhile {cs : List Char} {c : Char} (h : (cs.dropWhile isBlank).head? = some c) :
    isBlank c = false := by
  have start := List.head?_dropWhile_not isBlank cs
  rw [h] at start
  exact start

/-- Blanks around a trimmed text are what trimming takes off. -/
theorem trimChars_append {front core back : List Char} (before : ∀ c ∈ front, isBlank c = true)
    (after : ∀ c ∈ back, isBlank c = true) (trimmed : Trimmed core) :
    trimChars (front ++ core ++ back) = core := by
  have rest : ((core ++ back).dropWhile isBlank).reverse.dropWhile isBlank = core.reverse := by
    cases core with
    | nil =>
      have none : back.dropWhile isBlank = [] := by
        have all : (back ++ []).dropWhile isBlank = [] := List.dropWhile_append_of_pos after
        rwa [List.append_nil] at all
      rw [List.nil_append, none]
      rfl
    | cons c core =>
      have whole : (c :: core ++ back).dropWhile isBlank = c :: core ++ back :=
        dropWhile_isBlank_eq_self fun d hd => trimmed.1 d hd
      have after' : ∀ c ∈ back.reverse, isBlank c = true := fun c hc => after c (List.mem_reverse.1 hc)
      rw [whole, List.reverse_append, List.dropWhile_append_of_pos after']
      refine dropWhile_isBlank_eq_self fun d hd => trimmed.2 d ?_
      rwa [List.head?_reverse] at hd
  rw [trimChars, List.append_assoc, List.dropWhile_append_of_pos before, rest, List.reverse_reverse]

/-- Trimming leaves a trimmed text alone. -/
theorem trimChars_eq_self {cs : List Char} (h : Trimmed cs) : trimChars cs = cs := by
  have none : ∀ c ∈ ([] : List Char), isBlank c = true := nofun
  have whole := trimChars_append none none h
  rwa [List.nil_append, List.append_nil] at whole

/-- What is behind the blanks at the front is the trimmed text and more blanks. -/
theorem dropWhile_isBlank_eq (cs : List Char) :
    ∃ back, cs.dropWhile isBlank = trimChars cs ++ back ∧ ∀ c ∈ back, isBlank c = true := by
  let turned := (cs.dropWhile isBlank).reverse
  refine ⟨(turned.takeWhile isBlank).reverse, ?_, fun c hc => ?_⟩
  · show _ = (turned.dropWhile isBlank).reverse ++ _
    rw [← List.reverse_append, List.takeWhile_append_dropWhile, List.reverse_reverse]
  · exact List.all_eq_true.1 List.all_takeWhile c (List.mem_reverse.1 hc)

theorem trimmed_trimChars (cs : List Char) : Trimmed (trimChars cs) := by
  constructor
  · intro c hc
    obtain ⟨back, split, _⟩ := dropWhile_isBlank_eq cs
    have first : (cs.dropWhile isBlank).head? = some c := by
      rw [split, List.head?_append, hc]
      rfl
    exact isBlank_head_dropWhile first
  · intro c hc
    rw [trimChars, List.getLast?_reverse] at hc
    exact isBlank_head_dropWhile hc

/-- **What trimming does**: it leaves the one trimmed text that has nothing but blanks around it. -/
theorem trimChars_eq_iff {cs core : List Char} :
    trimChars cs = core ↔ Trimmed core ∧ ∃ front back, cs = front ++ core ++ back ∧
      (∀ c ∈ front, isBlank c = true) ∧ ∀ c ∈ back, isBlank c = true := by
  constructor
  · rintro rfl
    obtain ⟨back, split, after⟩ := dropWhile_isBlank_eq cs
    refine ⟨trimmed_trimChars cs, cs.takeWhile isBlank, back, ?_, List.all_eq_true.1 List.all_takeWhile, after⟩
    rw [List.append_assoc, ← split, List.takeWhile_append_dropWhile]
  · rintro ⟨trimmed, front, back, rfl, before, after⟩
    exact trimChars_append before after trimmed

theorem trim_eq_iff {s t : String} :
    trim s = t ↔ Trimmed t.toList ∧ ∃ front back, s.toList = front ++ t.toList ++ back ∧
      (∀ c ∈ front, isBlank c = true) ∧ ∀ c ∈ back, isBlank c = true := by
  rw [← trimChars_eq_iff, trim, ← String.toList_inj, String.toList_ofList]

/-- The White_Space property has 25 members. -/
example : sizeOfRanges blankRanges = 25 := rfl

end LoopLowering.Text
