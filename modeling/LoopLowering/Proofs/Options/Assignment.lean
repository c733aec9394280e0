/-
  What can be written on the two sides of an equals sign.

  An assignment is read from a text, and any text may be given.  What each text means is said here
  without a reader.

  1.  NUMERALS.  A numeral is a run of digits with at most one sign in front, and its amount is the positional one,
      so leading zeros do not count.  The reader takes exactly the numerals, each for its amount
      (`signed?_eq_some_iff`).

  2.  VALUES.  A text without blanks around it means a value by eight words and the numerals with a 64-bit
      amount (`Means`).  No word is a numeral, so the order in which the reader tries them does not matter
      (`parse?_eq_some_iff`), and it gives up only on what is neither a word nor such a numeral
      (`parse?_eq_none_iff`).

  3.  ASSIGNMENTS.  Every text is a key alone or has a first equals sign, which ends the key; the value may have
      more of them (`free_or_append`).  An assignment is read before anything is appended, so one that is
      refused leaves the overrides as they are (`run_assign_iff`), and reading all assignments at once is
      appending one after the other (`parseAll_eq_run`).
-/
import LoopLowering.Options.Basic
import Mathlib.Data.Nat.Digits.Defs

namespace LoopLowering

open LoopLowering.Text

/-! ## 1. Numerals -/

namespace Text.Decimal

/-- A text of one digit or more. -/
def IsRun (ds : List Char) : Prop := ds ≠ [] ∧ ∀ c ∈ ds, c.isDigit = true

/-- What a run of digits amounts to, the last one counting for ones, the one in front of it for tens, and so on. -/
def amount (ds : List Char) : Nat := Nat.ofDigits 10 (ds.reverse.map digitValue)

/-- The numerals and the integers they stand for. -/
inductive Numeral : List Char → Int → Prop
  | plain {ds : List Char} (run : IsRun ds) : Numeral ds (amount ds)
  | plus {ds : List Char} (run : IsRun ds) : Numeral ('+' :: ds) (amount ds)
  | minus {ds : List Char} (run : IsRun ds) : Numeral ('-' :: ds) (-amount ds)

theorem value_eq_amount (ds : List Char) : value ds = amount ds := by
  rw [amount, Nat.ofDigits_eq_foldr, List.foldr_map, List.foldr_reverse, value, valueFrom]
  congr 1
  funext n c
  exact Nat.add_comm (10 * n) (digitValue c)

theorem value?_eq_some_iff {ds : List Char} {n : Nat} : value? ds = some n ↔ IsRun ds ∧ amount ds = n := by
  have digits : ds ≠ [] ∧ ds.all Char.isDigit = true ↔ IsRun ds := and_congr_right fun _ => List.all_eq_true
  unfold value?
  rw [value_eq_amount]
  by_cases run : IsRun ds
  · rw [if_pos (digits.2 run), Option.some_inj]
    exact (and_iff_right run).symm
  · rw [if_neg (mt digits.1 run)]
    exact iff_of_false nofun fun h => run h.1

/-- **The reader takes exactly the numerals**, each for the integer it stands for. -/
theorem signed?_eq_some_iff {cs : List Char} {i : Int} : signed? cs = some i ↔ Numeral cs i := by
  constructor
  · intro h
    unfold signed? at h
    split at h <;> obtain ⟨n, read, rfl⟩ := Option.map_eq_some_iff.1 h <;>
      obtain ⟨run, rfl⟩ := value?_eq_some_iff.1 read
    · exact .minus run
    · exact .plus run
    · exact .plain run
  · rintro (run | run | run)
    · cases cs with
      | nil => exact absurd rfl run.1
      | cons c rest =>
        rw [signed?_of_isDigit (run.2 c List.mem_cons_self), value?_eq_some_iff.2 ⟨run, rfl⟩]
        rfl
    · show (value? _).map _ = _
      rw [value?_eq_some_iff.2 ⟨run, rfl⟩]
      rfl
    · show (value? _).map _ = _
      rw [value?_eq_some_iff.2 ⟨run, rfl⟩]
      rfl

end Text.Decimal

open Text.Decimal (Numeral signed?_eq_some_iff)

/-! ## 2. Values -/

namespace OptionValue

/-- The words for the value true. -/
def trueWords : List String := ["true", "on", "yes"]

/-- The words for the value false. -/
def falseWords : List String := ["false", "off", "no"]

/-- The words for the wish to unset an option. -/
def unsetWords : List String := ["none", "unset"]

/-- What a text without blanks around it means. -/
inductive Means : String → OptionValue → Prop
  | yes {t : String} (word : t ∈ trueWords) : Means t (.bool true)
  | no {t : String} (word : t ∈ falseWords) : Means t (.bool false)
  | unset {t : String} (word : t ∈ unsetWords) : Means t .unset
  | int {t : String} {i : Int64} (numeral : Numeral t.toList i.toInt) : Means t (.int i)

theorem word?_eq_some_iff {n : Int} {i : Int64} : word? n = some i ↔ i.toInt = n := by
  constructor
  · intro h
    unfold word? at h
    split at h
    next inside =>
      cases h
      exact Int64.toInt_ofInt_of_le inside.1 (Int.lt_add_one_of_le inside.2)
    next => nomatch h
  · rintro rfl
    exact word?_toInt i

/-- No word is a numeral. -/
theorem not_mem_of_numeral {words : List String} {t : String} {n : Int} (numeral : Numeral t.toList n)
    (foreign : ∀ w ∈ words, Decimal.signed? w.toList = none) : t ∉ words := by
  intro word
  rw [← signed?_eq_some_iff, foreign t word] at numeral
  nomatch numeral

theorem ofTrimmed?_toList (t : String) :
    ofTrimmed? t.toList =
      if t ∈ trueWords then some (bool true)
      else if t ∈ falseWords then some (bool false)
      else if t ∈ unsetWords then some unset
      else ((Decimal.signed? t.toList).bind word?).map int := by
  have spelled : ∀ words : List String, t.toList ∈ words.map String.toList ↔ t ∈ words := fun words => by
    rw [List.mem_map]
    exact ⟨fun ⟨w, hw, e⟩ => String.toList_inj.1 e ▸ hw, fun h => ⟨t, h, rfl⟩⟩
  simp only [ofTrimmed?, spelled]
  rfl

theorem ofTrimmed?_eq_some_iff {t : String} {v : OptionValue} : ofTrimmed? t.toList = some v ↔ Means t v := by
  constructor
  · intro h
    rw [ofTrimmed?_toList] at h
    split at h
    next word => cases h; exact .yes word
    split at h
    next word => cases h; exact .no word
    split at h
    next word => cases h; exact .unset word
    obtain ⟨i, read, rfl⟩ := Option.map_eq_some_iff.1 h
    obtain ⟨n, read, fits⟩ := Option.bind_eq_some_iff.1 read
    rw [← word?_eq_some_iff.1 fits] at read
    exact .int (signed?_eq_some_iff.1 read)
  · -- The reader tries the words first, so each case has to rule out the ones before it.
    rintro (word | word | word | numeral)
    · rw [ofTrimmed?_toList, if_pos word]
    · have apart : ∀ w ∈ falseWords, w ∉ trueWords := by decide
      rw [ofTrimmed?_toList, if_neg (apart t word), if_pos word]
    · have apart : ∀ w ∈ unsetWords, w ∉ trueWords ∧ w ∉ falseWords := by decide
      obtain ⟨yes, no⟩ := apart t word
      rw [ofTrimmed?_toList, if_neg yes, if_neg no, if_pos word]
    · have yes : t ∉ trueWords := not_mem_of_numeral numeral (by decide)
      have no : t ∉ falseWords := not_mem_of_numeral numeral (by decide)
      have unset : t ∉ unsetWords := not_mem_of_numeral numeral (by decide)
      rw [ofTrimmed?_toList, if_neg yes, if_neg no, if_neg unset, signed?_eq_some_iff.2 numeral,
        Option.bind_some, word?_toInt]
      rfl

/-- **What is read from a text is what it means**, blanks around it not counting. -/
theorem parse?_eq_some_iff {s : String} {v : OptionValue} : parse? s = some v ↔ Means (trim s) v := by
  rw [← ofTrimmed?_eq_some_iff, trim, String.toList_ofList, parse?]

/-- Zeros in front do not count, and the least integer is in range. -/
example : parse? "\t-009223372036854775808 " = some (.int Int64.minValue) := by decide +kernel

/-- The texts that mean nothing are no words, and the numerals among them are out of range. -/
theorem parse?_eq_none_iff {s : String} : parse? s = none ↔
    trim s ∉ trueWords ++ falseWords ++ unsetWords ∧
      ∀ n, Numeral (trim s).toList n → n < -2 ^ 63 ∨ 2 ^ 63 ≤ n := by
  rw [Option.eq_none_iff_forall_ne_some]
  simp only [ne_eq, parse?_eq_some_iff, List.mem_append, not_or]
  constructor
  · intro nothing
    refine ⟨⟨⟨fun h => nothing _ (.yes h), fun h => nothing _ (.no h)⟩, fun h => nothing _ (.unset h)⟩, ?_⟩
    intro n numeral
    by_contra inside
    have same : (Int64.ofInt n).toInt = n := Int64.toInt_ofInt_of_le (by omega) (by omega)
    rw [← same] at numeral
    exact nothing _ (.int numeral)
  · rintro ⟨⟨⟨yes, no⟩, unset⟩, outside⟩ v (word | word | word | numeral)
    · exact yes word
    · exact no word
    · exact unset word
    · rename_i i
      have low := i.le_toInt
      have high := i.toInt_lt
      have := outside _ numeral
      omega

end OptionValue

/-! ## 3. Assignments -/

namespace Override

open OptionValue (Means parse?_eq_some_iff parse?_eq_none_iff)

/-- Reads an assignment and appends it to the overrides at hand. -/
def assign (assignment : String) : ExceptT InvalidOption (StateM (List Override)) Unit := do
  let override ← MonadExcept.ofExcept (Override.parse assignment)
  modify (· ++ [override])

theorem run_assign (assignment : String) (os : List Override) :
    (assign assignment).run.run os = match Override.parse assignment with
      | .ok o => (.ok (), os ++ [o])
      | .error e => (.error e, os) := by
  unfold assign
  cases Override.parse assignment <;> rfl

/-- Overrides are read all at once as they are one after the other, up to the first that is refused. -/
theorem parseAll_eq_run (assignments : List String) (os : List Override) :
    (parseAll assignments).map (os ++ ·) =
      let (result, reached) := (forM assignments assign).run.run os
      result.map fun _ => reached := by
  induction assignments generalizing os with
  | nil => exact congrArg Except.ok (List.append_nil os)
  | cons assignment rest ih =>
    have first : (forM (assignment :: rest) assign).run.run os =
        match Override.parse assignment with
        | .ok o => (forM rest assign).run.run (os ++ [o])
        | .error e => (.error e, os) := by
      rw [List.forM_cons, ExceptT.run_bind, StateT.run_bind, run_assign]
      cases Override.parse assignment <;> rfl
    rw [first, parseAll, List.mapM_cons]
    cases Override.parse assignment with
    | error e => rfl
    | ok o =>
      -- What is appended first is at hand for the rest, which is why the start is arbitrary.
      refine Eq.trans ?_ (ih (os ++ [o]))
      show ((parseAll rest).map (o :: ·)).map (os ++ ·) = _
      cases parseAll rest with
      | error e => rfl
      | ok read => exact congrArg Except.ok (List.append_cons os o read)

theorem parse_of_free {key : String} (free : '=' ∉ key.toList) : parse key = .ok (trim key, .bool true) := by
  rw [parse, cutAt_eq_none_iff.2 free]

theorem toList_append_equals (key value : String) :
    (key ++ "=" ++ value).toList = key.toList ++ '=' :: value.toList := by
  rw [String.toList_append, String.toList_append, List.append_assoc]
  rfl

theorem parse_append {key value : String} (free : '=' ∉ key.toList) :
    parse (key ++ "=" ++ value) = match OptionValue.parse? value with
      | some v => .ok (trim key, v)
      | none => .error ⟨trim key, "a boolean, an integer, or `none`", trim value⟩ := by
  have cut : cutAt '=' (key ++ "=" ++ value).toList = some (key.toList, value.toList) := by
    rw [toList_append_equals]
    exact cutAt_append free value.toList
  rw [parse, cut]
  rfl

/-- Every text is a key alone or has a first equals sign. -/
theorem free_or_append (assignment : String) : '=' ∉ assignment.toList ∨
    ∃ key value : String, assignment = key ++ "=" ++ value ∧ '=' ∉ key.toList := by
  cases cut : cutAt '=' assignment.toList with
  | none => exact .inl (cutAt_eq_none_iff.1 cut)
  | some sides =>
    obtain ⟨split, free⟩ := cutAt_eq_some_iff.1 cut
    refine .inr ⟨String.ofList sides.1, String.ofList sides.2, ?_, by rwa [String.toList_ofList]⟩
    rw [← String.toList_inj, toList_append_equals, String.toList_ofList, String.toList_ofList]
    exact split

/-- What an assignment does to the overrides at hand: what it ends with and which overrides there are then. -/
inductive Assigns (os : List Override) : String → Except InvalidOption Unit × List Override → Prop
  | bare {key : String} (free : '=' ∉ key.toList) : Assigns os key (.ok (), os ++ [(trim key, .bool true)])
  | valued {key value : String} {v : OptionValue} (free : '=' ∉ key.toList) (means : Means (trim value) v) :
      Assigns os (key ++ "=" ++ value) (.ok (), os ++ [(trim key, v)])
  | refused {key value : String} (free : '=' ∉ key.toList) (nothing : ∀ v, ¬ Means (trim value) v) :
      Assigns os (key ++ "=" ++ value)
        (.error ⟨trim key, "a boolean, an integer, or `none`", trim value⟩, os)

/-- **What an assignment does**: it appends one override, or it is refused and nothing is appended. -/
theorem run_assign_iff {assignment : String} {os : List Override}
    {after : Except InvalidOption Unit × List Override} :
    (assign assignment).run.run os = after ↔ Assigns os assignment after := by
  rw [run_assign]
  constructor
  · rintro rfl
    rcases free_or_append assignment with free | ⟨key, value, rfl, free⟩
    · rw [parse_of_free free]
      exact .bare free
    · rw [parse_append free]
      cases read : OptionValue.parse? value with
      | some v => exact .valued free (parse?_eq_some_iff.1 read)
      | none =>
        refine .refused free fun v means => ?_
        rw [parse?_eq_some_iff.2 means] at read
        nomatch read
  · rintro (free | ⟨free, means⟩ | ⟨free, nothing⟩)
    · rw [parse_of_free free]
    · rw [parse_append free, parse?_eq_some_iff.2 means]
    · have read : OptionValue.parse? _ = none :=
        Option.eq_none_iff_forall_ne_some.2 fun v read => nothing v (parse?_eq_some_iff.1 read)
      rw [parse_append free, read]

/-- **What can be assigned.**  A value is read from a text exactly if the text means that value once the blanks around
    it are gone, so exactly from the words and from the numerals with a 64-bit amount, and every value can be
    written so that it is read again.  An assignment appends the trimmed text in front of the first equals
    sign with the value behind it, or the whole with the value true, and one that is refused appends
    nothing. -/
theorem assignment_grammar :
    (∀ s t : String, trim s = t ↔ Trimmed t.toList ∧ ∃ front back, s.toList = front ++ t.toList ++ back ∧
      (∀ c ∈ front, isBlank c = true) ∧ ∀ c ∈ back, isBlank c = true) ∧
    (∀ s v, OptionValue.parse? s = some v ↔ Means (trim s) v) ∧
    (∀ s, OptionValue.parse? s = none ↔
      trim s ∉ ["true", "on", "yes", "false", "off", "no", "none", "unset"] ∧
      ∀ n, Numeral (trim s).toList n → n < -2 ^ 63 ∨ 2 ^ 63 ≤ n) ∧
    (∀ v, OptionValue.parse? v.display = some v) ∧
    (∀ assignment os after, (assign assignment).run.run os = after ↔ Assigns os assignment after) ∧
    (∀ (key : String) (v : OptionValue) os, trim key = key → '=' ∉ key.toList →
      (assign (key ++ "=" ++ v.display)).run.run os = (.ok (), os ++ [(key, v)])) := by
  refine ⟨fun _ _ => trim_eq_iff, fun _ _ => parse?_eq_some_iff, fun _ => parse?_eq_none_iff,
    OptionValue.parse?_display, fun _ _ _ => run_assign_iff, fun key v os trimmed free => ?_⟩
  rw [run_assign, parse_append free, OptionValue.parse?_display, trimmed]

end Override

end LoopLowering
