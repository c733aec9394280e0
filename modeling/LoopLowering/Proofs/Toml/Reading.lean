/-
  Reading what is written: values, and the lines that hold them.

  1.  NUMBERS.  The digits of a number are a word, and of the classes of words only that of decimal
      numbers takes it (`Scalar.read?_digits`).

  2.  VALUES.  `Denotes cs v` says that `cs`, at the end of a line, is read as the value `v`.  Written
      strings and numbers do (`denotes_write`, `denotes_digits`), and so does a list of strings in each
      of the three layouts that it can have (`denotes_nil`, `denotes_single`, `denotes_lines`).

  3.  STATEMENTS.  A bare key and a value that is written behind it make a field
      (`statement?_field`), a bare key between brackets opens a table (`statement?_header`).

  4.  LINES.  Fields on lines of their own are filed one after the other (`statements?_lines`).

  5.  A text without a carriage return has its line breaks in one form already (`unify_of_no_return`).
-/
import LoopLowering.Toml.Reader
import LoopLowering.Proofs.Json.Scanning
import LoopLowering.Proofs.Toml.Quoted

namespace LoopLowering.Toml

open LoopLowering.Text

/-- A run of characters is taken as a whole, up to the first that is not of its kind. -/
theorem span_run {p : Char → Bool} {run : List Char} (h : ∀ c ∈ run, p c = true) {rest : List Char}
    (hrest : ∀ c ∈ rest.head?, p c = false) :
    (run ++ rest).takeWhile p = run ∧ (run ++ rest).dropWhile p = rest := by
  rw [List.takeWhile_append_of_pos h, List.dropWhile_append_of_pos h]
  cases rest with
  | nil => exact ⟨List.append_nil run, rfl⟩
  | cons c rest => simp [hrest c rfl]

/-! ## 1. Numbers -/

namespace Scalar

variable {cs : List Char}

/-- A text of digits and nothing else. -/
def Digits (cs : List Char) : Prop := ∀ c ∈ cs, c.isDigit = true

theorem Digits.drop (h : Digits cs) (n : Nat) : Digits (cs.drop n) :=
  fun c hc => h c (List.mem_of_mem_drop hc)

/-- Nothing but a digit can be dropped from digits. -/
theorem Digits.drop? (h : Digits cs) {c : Char} (hc : c.isDigit = false) : drop? c cs = none := by
  cases cs with
  | nil => rfl
  | cons d cs =>
    rw [Scalar.drop?, if_neg]
    rintro rfl
    rw [h d List.mem_cons_self] at hc
    exact absurd hc (by decide)

theorem rest_of_digits? {n m : Nat} {rest : List Char} (h : digits? n cs = some (m, rest)) :
    rest = cs.drop n := by
  simp only [digits?] at h
  split at h
  · exact (Prod.mk.inj (Option.some.inj h)).2.symm
  · cases h

/-- Digits are not a date: no hyphen follows the year. -/
theorem Digits.dropDate? (h : Digits cs) : dropDate? cs = none := by
  rw [Scalar.dropDate?]
  cases hy : digits? 4 cs with
  | none => rfl
  | some year =>
    have none_behind := (h.drop 4).drop? (c := '-') (by decide)
    rw [← rest_of_digits? hy] at none_behind
    simp only [Option.bind_eq_bind, Option.bind_some, none_behind]
    rfl

/-- Digits are not a time: no colon follows the hours. -/
theorem Digits.dropTime? (h : Digits cs) : dropTime? cs = none := by
  rw [Scalar.dropTime?, pair?]
  cases hh : digits? 2 cs with
  | none => rfl
  | some hours =>
    have none_behind := (h.drop 2).drop? (c := ':') (by decide)
    rw [← rest_of_digits? hh] at none_behind
    simp only [Option.bind_eq_bind, Option.bind_some]
    split
    · simp only [Option.pure_def, Option.bind_some, none_behind]
      rfl
    · rfl

/-- Digits that do not look like a number with a leading zero stand as they are. -/
theorem Digits.decimal? (h : Digits cs) (hplain : ¬ (cs = [] ∨ (cs.head? = some '0' ∧ 1 < cs.length))) :
    decimal? cs = some cs := by
  have whole : grouped? Char.isDigit cs = some cs := by
    have no_mark : '_' ∉ cs := fun hm => absurd (h '_' hm) (by decide)
    rw [grouped?, pieces_eq_singleton no_mark]
    have nonempty : cs.isEmpty = false := by
      cases cs with
      | nil => exact absurd (.inl rfl) hplain
      | cons c cs => rfl
    simp [nonempty, List.all_eq_true.2 h]
  rw [Scalar.decimal?, whole]
  split
  · next e =>
    obtain rfl := Option.some.inj e
    exact absurd (.inr ⟨rfl, by simp⟩) hplain
  · rfl

/-- Digits have no sign and no mark of a base. -/
theorem Digits.number? (h : Digits cs) : number? cs = unsigned? false cs := by
  unfold Scalar.number?
  split
  · exact absurd (h 'x' (by simp)) (by decide)
  · exact absurd (h 'o' (by simp)) (by decide)
  · exact absurd (h 'b' (by simp)) (by decide)
  · exact absurd (h '-' (by simp)) (by decide)
  · exact absurd (h '+' (by simp)) (by decide)
  · rfl

/-- Digits are none of the words that are spelled with letters. -/
theorem Digits.ne_of_mem (h : Digits cs) {word : List Char} {c : Char} (hc : c ∈ word)
    (hd : c.isDigit = false) : cs ≠ word := by
  rintro rfl
  rw [h c hc] at hd
  exact absurd hd (by decide)

theorem digits_decimal (n : Nat) : Digits (Decimal.digits n) :=
  fun _ hc => Decimal.isDigit_of_mem_digits hc

/-- The digits of a number in the range of 64 bits are the number. -/
theorem ofWord?_digits {n : Nat} (hn : (n : Int) ≤ Int64.maxValue.toInt) :
    ofWord? (Decimal.digits n) = some (.integer n) := by
  have h := digits_decimal n
  have group : ∀ c ∈ Decimal.digits n, isGroupChar c = true := fun c hc => by
    rw [isGroupChar, h c hc, Bool.true_or]
  have none_follows : ∀ c ∈ ([] : List Char).head?, isGroupChar c = false := fun c hc => by cases hc
  obtain ⟨front, behind⟩ := span_run group none_follows
  rw [List.append_nil] at front behind
  have inRange : integer? n = some (.integer n) := by
    have low : Int64.minValue.toInt ≤ (n : Int) :=
      Int.le_trans (by decide) (Int.natCast_nonneg n)
    rw [integer?, if_pos ⟨low, hn⟩]
  have undated : isDatetime (Decimal.digits n) = false := by
    simp [isDatetime, h.dropDate?, h.dropTime?]
  rw [ofWord?, if_neg (h.ne_of_mem (c := 't') (by simp) (by decide)),
    if_neg (h.ne_of_mem (c := 'f') (by simp) (by decide)), undated, if_neg (by decide), h.number?,
    unsigned?, if_neg, front, behind, h.decimal? (Json.plain_digits n)]
  · show integer? (Decimal.value (Decimal.digits n) : Int) = _
    rw [Decimal.value_digits, inRange]
  · rintro (e | e)
    · exact h.ne_of_mem (c := 'i') (by simp) (by decide) e
    · exact h.ne_of_mem (c := 'n') (by simp) (by decide) e

/-- **A written number is read**, up to a character that cannot belong to it. -/
theorem read?_digits {n : Nat} (hn : (n : Int) ≤ Int64.maxValue.toInt) (rest : List Char)
    (hrest : ∀ c ∈ rest.head?, isWordChar c = false) :
    read? (Decimal.digits n ++ rest) = some (.integer n, rest) := by
  have h := digits_decimal n
  have word : ∀ c ∈ Decimal.digits n, isWordChar c = true := fun c hc => by
    simp [isWordChar, Char.isAlphanum, h c hc]
  obtain ⟨front, behind⟩ := span_run word hrest
  have undated : isDate (Decimal.digits n) = false := by simp [isDate, h.dropDate?]
  rw [read?, front, behind, undated, ofWord?_digits hn]
  rfl

end Scalar

/-! ## 2. Values -/

namespace Reader

/-- At a character that is no blank, no line break and no comment nothing is skipped. -/
theorem skipAll_cons {c : Char} (hc : c ≠ '\n' ∧ c ≠ '#' ∧ isSpace c = false) (rest : List Char) :
    skipAll (c :: rest) = c :: rest := by
  simp [skipAll, skipFrom, hc]

theorem skipAll_space (rest : List Char) : skipAll (' ' :: rest) = skipAll rest := rfl

theorem skipSpace_cons {c : Char} (hc : isSpace c = false) (rest : List Char) :
    skipSpace (c :: rest) = c :: rest := by
  rw [skipSpace, List.dropWhile_cons_of_neg (by simp [hc])]

/-- A text that is read as a value at the end of a line, given steps enough for its characters. -/
structure Denotes (cs : List Char) (v : Value) : Prop where
  no_blank : ∀ rest, skipSpace (cs ++ rest) = cs ++ rest
  no_return : '\r' ∉ cs
  reads : ∀ room fuel rest, cs.length < fuel →
    value? (room + 1) fuel (cs ++ '\n' :: rest) = some (v, '\n' :: rest)

/-- The first character of a written string is not skipped. -/
theorem head_write_visible (text rest : List Char) :
    skipSpace (Quoted.write text ++ rest) = Quoted.write text ++ rest ∧
      skipAll (Quoted.write text ++ rest) = Quoted.write text ++ rest := by
  obtain ⟨tail, h | h⟩ := Quoted.head_write text <;> rw [h] <;>
    exact ⟨skipSpace_cons (by decide) _, skipAll_cons (by decide) _⟩

/-- A written string is a value, whatever follows that is not a quote. -/
theorem value?_write (room fuel : Nat) (text rest : List Char)
    (hrest : ∀ c ∈ rest.head?, c ≠ '"' ∧ c ≠ '\'') :
    value? room (fuel + 1) (Quoted.write text ++ rest) = some (.string (String.ofList text), rest) := by
  have reads := Quoted.read?_write text rest hrest
  obtain ⟨tail, h | h⟩ := Quoted.head_write text
  all_goals
    rw [h, List.cons_append] at reads ⊢
    rw [value?, reads]
    rfl

/-- Where a digit stands, a word is read. -/
theorem value?_of_isDigit (room fuel : Nat) {c : Char} (hc : c.isDigit = true) (rest : List Char) :
    value? room (fuel + 1) (c :: rest) = Scalar.read? (c :: rest) := by
  have other {d : Char} {others : List Char} (hd : d.isDigit = false) (e : c :: rest = d :: others) :
      False := by
    rw [(List.cons.inj e).1, hd] at hc
    cases hc
  unfold value?
  split
  · next e => exact (other (by decide) e).elim
  · next e => exact (other (by decide) e).elim
  · next e => exact (other (by decide) e).elim
  · next e => exact (other (by decide) e).elim
  · rfl

theorem denotes_write (text : List Char) :
    Denotes (Quoted.write text) (.string (String.ofList text)) where
  no_blank rest := (head_write_visible text rest).1
  no_return := Quoted.no_return_write text
  reads room fuel rest hfuel := by
    obtain ⟨fuel, rfl⟩ := Nat.exists_eq_succ_of_ne_zero (Nat.ne_of_gt (Nat.zero_lt_of_lt hfuel))
    exact value?_write (room + 1) fuel text _ (fun c hc => by cases hc; decide)

theorem denotes_digits {n : Nat} (hn : (n : Int) ≤ Int64.maxValue.toInt) :
    Denotes (Decimal.digits n) (.integer n) := by
  have digits := Scalar.digits_decimal n
  obtain ⟨c, tail, h⟩ := List.exists_cons_of_ne_nil (Decimal.digits_ne_nil n)
  have hc : c.isDigit = true := digits c (h ▸ List.mem_cons_self)
  refine ⟨fun rest => ?_, fun hm => absurd (digits _ hm) (by decide), fun room fuel rest hfuel => ?_⟩
  · have hspace : isSpace c = false := by
      cases hs : isSpace c with
      | false => rfl
      | true =>
        rcases (by simpa [isSpace] using hs : c = ' ' ∨ c = '\t') with rfl | rfl <;>
          exact absurd hc (by decide)
    rw [h]
    exact skipSpace_cons hspace _
  · obtain ⟨fuel, rfl⟩ := Nat.exists_eq_succ_of_ne_zero (Nat.ne_of_gt (Nat.zero_lt_of_lt hfuel))
    have reads := Scalar.read?_digits hn ('\n' :: rest) (fun c hc => by cases hc; decide)
    rw [h, List.cons_append] at reads ⊢
    rw [value?_of_isDigit _ _ hc, reads]

/-! A list of strings has one of three layouts: nothing between the brackets, one string between the
  brackets, or every string on a line of its own, with a comma behind it. -/

/-- The line of a string in a list. -/
def itemLine (text : String) : List Char :=
  [' ', ' ', ' ', ' '] ++ Quoted.write text.toList ++ [',', '\n']

/-- A string in a list is an item; a comma or the closing bracket decides what comes next. -/
theorem items?_write (room fuel : Nat) (done : List Value) (text : String) (rest : List Char)
    (hrest : ∀ c ∈ rest.head?, c ≠ '"' ∧ c ≠ '\'') :
    items? room (fuel + 2) done (Quoted.write text.toList ++ rest) =
      match skipAll rest with
      | ',' :: rest => items? room (fuel + 1) (.string text :: done) (skipAll rest)
      | ']' :: rest => some (.array (.string text :: done).reverse, rest)
      | _ => none := by
  have reads := value?_write room fuel text.toList rest hrest
  rw [String.ofList_toList] at reads
  unfold items?
  split
  · next e =>
    obtain ⟨tail, h | h⟩ := Quoted.head_write text.toList
    all_goals
      rw [h] at e
      exact absurd (List.cons.inj e).1 (by decide)
  · rw [reads]
    rfl

/-- There are characters enough in the lines for a step each. -/
theorem length_le_lines (texts : List String) : texts.length ≤ (texts.flatMap itemLine).length := by
  induction texts with
  | nil => exact Nat.le_refl _
  | cons text texts ih =>
    rw [List.flatMap_cons, List.length_append, List.length_cons]
    simp only [itemLine, List.length_append, List.length_cons]
    omega

/-- The lines of strings are read to the strings, a step for each, one for the bracket. -/
theorem items?_lines (room : Nat) (texts : List String) (fuel : Nat) (hfuel : texts.length < fuel)
    (done : List Value) (rest : List Char) :
    items? room fuel done (skipAll (texts.flatMap itemLine ++ ']' :: rest)) =
      some (.array (done.reverse ++ texts.map .string), rest) := by
  induction texts generalizing fuel done with
  | nil =>
    obtain ⟨fuel, rfl⟩ := Nat.exists_eq_succ_of_ne_zero (Nat.ne_of_gt hfuel)
    show items? room (fuel + 1) done (skipAll (']' :: rest)) = _
    rw [skipAll_cons (by decide), items?, List.map_nil, List.append_nil]
  | cons text texts ih =>
    rw [List.length_cons] at hfuel
    obtain ⟨fuel, rfl⟩ : ∃ n, fuel = n + 2 := ⟨fuel - 2, by omega⟩
    have first : skipAll ((text :: texts).flatMap itemLine ++ ']' :: rest) =
        Quoted.write text.toList ++ ',' :: '\n' :: (texts.flatMap itemLine ++ ']' :: rest) := by
      rw [List.flatMap_cons, itemLine]
      simp only [List.append_assoc, List.cons_append, List.nil_append, skipAll_space]
      rw [(head_write_visible _ _).2]
    rw [first, items?_write _ _ _ _ _ (fun c hc => by cases hc; decide), skipAll_cons (by decide)]
    show items? room (fuel + 1) (.string text :: done)
      (skipAll (texts.flatMap itemLine ++ ']' :: rest)) = _
    rw [ih (fuel + 1) (by omega)]
    simp

theorem denotes_nil : Denotes ['[', ']'] (.array []) where
  no_blank rest := skipSpace_cons (by decide) _
  no_return := by decide
  reads room fuel rest hfuel := by
    obtain ⟨fuel, rfl⟩ : ∃ n, fuel = n + 2 := ⟨fuel - 2, by simp at hfuel; omega⟩
    show items? room (fuel + 1) [] (skipAll (']' :: '\n' :: rest)) = _
    rw [skipAll_cons (by decide), items?]
    rfl

theorem denotes_single (text : String) :
    Denotes ('[' :: Quoted.write text.toList ++ [']']) (.array [.string text]) where
  no_blank rest := skipSpace_cons (by decide) _
  no_return := by
    have unbroken := Quoted.no_return_write text.toList
    simpa using unbroken
  reads room fuel rest hfuel := by
    obtain ⟨fuel, rfl⟩ : ∃ n, fuel = n + 3 := ⟨fuel - 3, by
      obtain ⟨tail, h | h⟩ := Quoted.head_write text.toList <;> simp [h] at hfuel <;> omega⟩
    rw [List.append_assoc, List.cons_append]
    show items? room (fuel + 2) [] (skipAll (Quoted.write text.toList ++ ']' :: '\n' :: rest)) = _
    rw [(head_write_visible _ _).2, items?_write _ _ _ _ _ (fun c hc => by cases hc; decide),
      skipAll_cons (by decide)]
    rfl

theorem denotes_lines (texts : List String) :
    Denotes ('[' :: '\n' :: texts.flatMap itemLine ++ [']']) (.array (texts.map .string)) where
  no_blank rest := skipSpace_cons (by decide) _
  no_return := by
    have unbroken (text : String) := Quoted.no_return_write text.toList
    simp [itemLine, unbroken]
  reads room fuel rest hfuel := by
    have steps := length_le_lines texts
    simp only [List.cons_append, List.length_cons, List.length_append] at hfuel
    obtain ⟨fuel, rfl⟩ : ∃ n, fuel = n + 1 := ⟨fuel - 1, by omega⟩
    rw [List.append_assoc]
    show items? room fuel [] (skipAll (texts.flatMap itemLine ++ ']' :: '\n' :: rest)) = _
    rw [items?_lines room texts fuel (by omega)]
    rfl

/-! ## 3. Statements -/

/-- A key that is written without quotes. -/
def IsBare (key : String) : Prop := key.toList ≠ [] ∧ key.toList.all isKeyChar = true

instance (key : String) : Decidable (IsBare key) :=
  inferInstanceAs (Decidable (key.toList ≠ [] ∧ key.toList.all isKeyChar = true))

theorem IsBare.chars {key : String} (h : IsBare key) : ∀ c ∈ key.toList, isKeyChar c = true :=
  List.all_eq_true.1 h.2

/-- A bare key begins with a character that begins nothing else. -/
theorem IsBare.head {key : String} (h : IsBare key) :
    ∃ c cs, key.toList = c :: cs ∧ c ∉ ['"', '\'', ' ', '\t', '\n', '#', '['] := by
  obtain ⟨c, cs, e⟩ := List.exists_cons_of_ne_nil h.1
  have hc : isKeyChar c = true := h.chars c (e ▸ List.mem_cons_self)
  refine ⟨c, cs, e, fun hm => ?_⟩
  have others : ['"', '\'', ' ', '\t', '\n', '#', '['].all (fun d => !isKeyChar d) = true := by decide
  have hno := List.all_eq_true.1 others c hm
  rw [hc] at hno
  cases hno

theorem IsBare.skipSpace {key : String} (h : IsBare key) (rest : List Char) :
    skipSpace (key.toList ++ rest) = key.toList ++ rest := by
  obtain ⟨c, cs, e, hc⟩ := h.head
  rw [e]
  refine skipSpace_cons ?_ _
  simp only [List.mem_cons, not_or] at hc
  simp [isSpace, hc]

/-- A bare key is read, up to the first character that is no part of it. -/
theorem IsBare.simpleKey? {key : String} (h : IsBare key) {rest : List Char}
    (hrest : ∀ c ∈ rest.head?, isKeyChar c = false) :
    simpleKey? (key.toList ++ rest) = some (key, rest) := by
  have unquoted : Quoted.readLine? (key.toList ++ rest) = none := by
    obtain ⟨c, cs, e, hc⟩ := h.head
    rw [e]
    unfold Quoted.readLine?
    split
    · next e' => exact absurd (by simp [(List.cons.inj e').1]) hc
    · next e' => exact absurd (by simp [(List.cons.inj e').1]) hc
    · rfl
  obtain ⟨front, behind⟩ := span_run h.chars hrest
  have nonempty : key.toList.isEmpty = false := by simpa using h.1
  rw [Reader.simpleKey?, unquoted]
  simp [front, behind, nonempty]

/-- A bare key without a dot behind it is a whole path. -/
theorem IsBare.key? {key : String} (h : IsBare key) {rest : List Char}
    (hrest : ∀ c ∈ rest.head?, isKeyChar c = false)
    (hdot : ∀ c ∈ (Reader.skipSpace rest).head?, c ≠ '.') :
    key? maxNesting (key.toList ++ rest) = some (([], key), Reader.skipSpace rest) := by
  -- One key of the many that dots may join.
  show Reader.key? (78 + 1) _ = _
  rw [Reader.key?, h.skipSpace, h.simpleKey? hrest]
  simp only [Option.bind_eq_bind, Option.bind_some]
  split
  · next e => exact absurd rfl (hdot '.' (by rw [e]; rfl))
  · rfl

/-- A statement that begins with a bare key is a field. -/
theorem IsBare.statement? {key : String} (h : IsBare key) (d : Draft) (rest : List Char) :
    statement? d (key.toList ++ rest) = field? d (key.toList ++ rest) := by
  obtain ⟨c, cs, e, hc⟩ := h.head
  rw [e]
  unfold Reader.statement?
  split
  · next e' => exact absurd (by simp [(List.cons.inj e').1]) hc
  · next e' => exact absurd (by simp [(List.cons.inj e').1]) hc
  · next e' => exact absurd (by simp [(List.cons.inj e').1]) hc
  · next e' => exact absurd (by simp [(List.cons.inj e').1]) hc
  · rfl

/-- **A bare key and the text of a value make a field**, if the table has none of that name. -/
theorem statement?_field {key : String} (hkey : IsBare key) {cs : List Char} {v : Value}
    (hv : Denotes cs v) {d : Draft} (hnew : d.current.get? key = none) (rest : List Char) :
    statement? d (key.toList ++ ' ' :: '=' :: ' ' :: (cs ++ '\n' :: rest)) =
      some ({ d with current := d.current ++ [(key, v)] }, rest) := by
  have keyed : key? maxNesting (key.toList ++ ' ' :: '=' :: ' ' :: (cs ++ '\n' :: rest)) =
      some (([], key), '=' :: ' ' :: (cs ++ '\n' :: rest)) :=
    hkey.key? (fun c hc => by cases hc; decide) (fun c hc => by cases hc; decide)
  have valued : value? maxNesting ((' ' :: (cs ++ '\n' :: rest)).length + 1)
      (skipSpace (' ' :: (cs ++ '\n' :: rest))) = some (v, '\n' :: rest) := by
    show value? (78 + 1) _ (skipSpace (cs ++ '\n' :: rest)) = _
    rw [hv.no_blank]
    exact hv.reads 78 _ rest (by simp only [List.length_cons, List.length_append]; omega)
  have filed : d.field? [] key v = some { d with current := d.current ++ [(key, v)] } := by
    simp [Draft.field?, insert?, edit, Fields.add?, hnew]
  have ended : endLine? ('\n' :: rest) = some rest := rfl
  rw [hkey.statement?, field?, keyed]
  simp only [Option.bind_eq_bind, Option.bind_some, valued, filed, ended]
  rfl

/-- **A bare key between brackets opens a table**, if the file has nothing of that name. -/
theorem statement?_header {key : String} (hkey : IsBare key) {d : Draft} (hroot : d.target = .root)
    (hnew : d.current.get? key = none) (rest : List Char) :
    statement? d ('[' :: (key.toList ++ ']' :: '\n' :: rest)) =
      some ({ done := d.current, current := [], target := .table [] key }, rest) := by
  have keyed : key? maxNesting (key.toList ++ ']' :: '\n' :: rest) =
      some (([], key), ']' :: '\n' :: rest) :=
    hkey.key? (fun c hc => by cases hc; decide) (fun c hc => by cases hc; decide)
  have opened : d.openTable? [] key =
      some { done := d.current, current := [], target := .table [] key } := by
    simp [Draft.openTable?, Draft.close?, hroot, edit, hnew]
  have ended : endTable? (']' :: '\n' :: rest) = some rest := rfl
  obtain ⟨c, cs, e, hc⟩ := hkey.head
  rw [e] at keyed ⊢
  unfold statement?
  split
  · next e' => exact absurd (List.cons.inj e').1 (by decide)
  · next e' => exact absurd (List.cons.inj e').1 (by decide)
  · next e' => exact absurd (by simp [(List.cons.inj (List.cons.inj e').2).1]) hc
  · next e' =>
    obtain ⟨-, rfl⟩ := List.cons.inj e'
    simp only [keyed, Option.bind_eq_bind, Option.bind_some, opened, ended]
    rfl
  · next h => exact absurd rfl (h _)

/-! ## 4. Lines -/

/-- A field before it is read: its key, the text of its value, and the value. -/
structure Line where
  key : String
  text : List Char
  value : Value

/-- The characters of a line. -/
def Line.chars (l : Line) : List Char := l.key.toList ++ ' ' :: '=' :: ' ' :: (l.text ++ ['\n'])

/-- A line that makes the field that it stands for. -/
structure Line.Sound (l : Line) : Prop where
  key : IsBare l.key
  value : Denotes l.text l.value

theorem Line.Sound.of {key : String} {text : List Char} {v : Value} (hkey : IsBare key)
    (hv : Denotes text v) : (Line.mk key text v).Sound := ⟨hkey, hv⟩

/-- Sound lines hold no carriage return. -/
theorem no_return_lines {lines : List Line} (h : ∀ l ∈ lines, l.Sound) :
    '\r' ∉ lines.flatMap Line.chars := by
  intro hm
  obtain ⟨l, hl, hm⟩ := List.mem_flatMap.1 hm
  have hkey : '\r' ∉ l.key.toList := fun hm => absurd ((h l hl).key.chars _ hm) (by decide)
  have hvalue := (h l hl).value.no_return
  simp [Line.chars, hkey, hvalue] at hm

/-- The field of a line. -/
def Line.field (l : Line) : String × Value := (l.key, l.value)

theorem get?_eq_none {fields : Fields} {key : String} (h : key ∉ fields.map Prod.fst) :
    fields.get? key = none := by
  rw [Fields.get?, Option.map_eq_none_iff, List.find?_eq_none]
  intro f hf e
  exact h (List.mem_map.2 ⟨f, hf, of_decide_eq_true e⟩)

/-- A statement is read in a step. -/
theorem statements?_step {d d' : Draft} {cs rest : List Char} (hstart : skipSpace cs = cs)
    (h : cs ≠ []) (hs : statement? d cs = some (d', rest)) (fuel : Nat) :
    statements? (fuel + 1) d cs = statements? fuel d' rest := by
  rw [statements?, hstart]
  split
  · exact absurd rfl h
  · rw [hs]
    rfl

/-- **Lines are read to their fields**, each in a step, if no two fields of the table have one name. -/
theorem statements?_lines {lines : List Line} (h : ∀ l ∈ lines, l.Sound) (fuel : Nat) (d : Draft)
    (hnew : (d.current.map Prod.fst ++ lines.map Line.key).Nodup) (rest : List Char) :
    statements? (lines.length + fuel) d (lines.flatMap Line.chars ++ rest) =
      statements? fuel { d with current := d.current ++ lines.map Line.field } rest := by
  induction lines generalizing d with
  | nil => simp
  | cons l lines ih =>
    have sound := h l List.mem_cons_self
    obtain ⟨c, cs, hc, -⟩ := sound.key.head
    -- The names of the fields that are filed are those of the lines that were read.
    have hnew' : ((d.current ++ [l.field]).map Prod.fst ++ lines.map Line.key).Nodup := by
      simpa [Line.field] using hnew
    have absent : l.key ∉ d.current.map Prod.fst := fun hm =>
      (List.nodup_append.1 hnew).2.2 _ hm _ List.mem_cons_self rfl
    have filed := statement?_field sound.key sound.value (get?_eq_none absent)
      (lines.flatMap Line.chars ++ rest)
    have split : (l :: lines).flatMap Line.chars ++ rest = l.key.toList ++
        ' ' :: '=' :: ' ' :: (l.text ++ '\n' :: (lines.flatMap Line.chars ++ rest)) := by
      simp [Line.chars]
    rw [split, List.length_cons, Nat.add_right_comm,
      statements?_step (sound.key.skipSpace _) (by simp [hc]) filed]
    rw [ih (fun m hm => h m (List.mem_cons_of_mem l hm)) _ hnew', List.map_cons, List.append_assoc]
    rfl

/-! ## 5. Line breaks -/

theorem unifyFrom_of_no_return {done cs : List Char} (hdone : '\r' ∉ done) (h : '\r' ∉ cs) :
    unifyFrom done cs = done.reverse ++ cs := by
  induction cs generalizing done with
  | nil => simp [unifyFrom]
  | cons c cs ih =>
    rw [List.mem_cons, not_or] at h
    have next : '\r' ∉ c :: done := List.not_mem_cons_of_ne_of_not_mem h.1 hdone
    have kept : unifyFrom done (c :: cs) = unifyFrom (c :: done) cs := by
      by_cases hc : c = '\n'
      · rw [hc, unifyFrom]
        rintro before rfl
        exact hdone List.mem_cons_self
      · rw [unifyFrom]
        exact hc
    rw [kept, ih next h.2, List.reverse_cons, List.append_assoc, List.singleton_append]

/-- A text without a carriage return and a mark for the byte order is read as it stands. -/
theorem unify_of_no_return {cs : List Char} (hmark : cs.head? ≠ some '\ufeff') (h : '\r' ∉ cs) :
    unify cs = cs := by
  unfold unify
  split
  · exact absurd rfl hmark
  · exact unifyFrom_of_no_return List.not_mem_nil h

end Reader

end LoopLowering.Toml
