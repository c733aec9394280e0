/-
  Quoted TOML text: reading undoes writing, in every style.

  1.  SPELLINGS.  `Spells s k body text` says that `body` stands for `text` between the delimiters of
      the style `s`, behind `k` quotes that are text already.  A piece of a body is a quote, a bare
      character or an escape.  The count `k` is what the machine's place holds: quotes in a row stay
      pending until the next character shows that they do not delimit.

  2.  READING.  A spelling is read to its text, up to the delimiter behind it (`readFrom_of_spells`).
      Quotes that are pending at the delimiter are text, and at most two can be.

  3.  WRITING.  What is written is a spelling.  With escapes this holds of every text
      (`spells_escapeFrom`); without, of the texts that `styleOf` picks the style for
      (`spells_self`).

  4.  The whole string, delimiters and the line break behind them included (`read?_write`).
-/
import LoopLowering.Toml.Quoted

namespace LoopLowering.Toml.Quoted

/-! ## 1. Spellings -/

/-- How many quotes may stand together inside a string. -/
def Style.room (s : Style) : Nat := if s.multiline then 2 else 0

/-- A character that stands for itself wherever it occurs in a string. -/
structure Style.Bare (s : Style) (c : Char) : Prop where
  ne_quote : c ≠ s.quote
  ne_backslash : ¬ (c = '\\' ∧ s.escapes = true)
  newline : c = '\n' → s.multiline = true
  visible : isControl c = false

/-- The characters behind a backslash that make it stand for `c`. -/
structure Escape (s : Style) (code : List Char) (c : Char) : Prop where
  reads : ∀ text rest, readFrom s text .escape (code ++ rest) = readFrom s (c :: text) .plain rest
  no_return : '\r' ∉ code

/-- What may stand between delimiters for a text, behind a number of quotes that belong to the text. -/
inductive Spells (s : Style) : Nat → List Char → List Char → Prop where
  | nil {k} : Spells s k [] []
  | quote {k body text} (h : k < s.room) (tail : Spells s (k + 1) body text) :
      Spells s k (s.quote :: body) (s.quote :: text)
  | bare {k body text c} (h : s.Bare c) (tail : Spells s 0 body text) :
      Spells s k (c :: body) (c :: text)
  | escape {k body text c code} (hs : s.escapes = true) (hq : s.quote ≠ '\\')
      (h : Escape s code c) (tail : Spells s 0 body text) :
      Spells s k ('\\' :: (code ++ body)) (c :: text)

namespace Spells

variable {s : Style} {k : Nat} {body text : List Char}

/-- The first character of a spelling: a quote if there is room, a backslash, or the first of the
    text. -/
theorem head (h : Spells s k body text) {c : Char} {rest : List Char} (e : body = c :: rest) :
    (c = s.quote ∧ k < s.room) ∨ (c = '\\' ∧ s.quote ≠ '\\') ∨ (s.Bare c ∧ c ∈ text) := by
  cases h with
  | nil => cases e
  | quote hk tail =>
    obtain ⟨rfl, rfl⟩ := List.cons.inj e
    exact .inl ⟨rfl, hk⟩
  | bare hc tail =>
    obtain ⟨rfl, rfl⟩ := List.cons.inj e
    exact .inr (.inr ⟨hc, List.mem_cons_self⟩)
  | escape hs hq hcode tail =>
    obtain ⟨rfl, rfl⟩ := List.cons.inj e
    exact .inr (.inl ⟨rfl, hq⟩)

/-- No spelling holds a carriage return: where the text has one, it is escaped. -/
theorem no_return (h : Spells s k body text) (hq : s.quote ≠ '\r') : '\r' ∉ body := by
  induction h with
  | nil => exact List.not_mem_nil
  | quote hk tail ih => exact List.not_mem_cons_of_ne_of_not_mem hq.symm ih
  | bare hc tail ih =>
    refine List.not_mem_cons_of_ne_of_not_mem ?_ ih
    rintro rfl
    exact absurd hc.visible (by decide)
  | escape hs hq' hcode tail ih =>
    refine List.not_mem_cons_of_ne_of_not_mem (by decide) ?_
    exact fun hm => (List.mem_append.1 hm).elim hcode.no_return ih

end Spells

/-! ## 2. Reading -/

/-- Where the machine stands behind `k` quotes that do not end the string. -/
def behind : Nat → Place
  | 0 => .plain
  | k + 1 => .quotes k

variable {s : Style} {k : Nat} {text : List Char} {c : Char}

theorem plainStep_bare (h : s.Bare c) (text : List Char) :
    plainStep s text c = .more (c :: text) .plain := by
  rw [plainStep, if_neg h.ne_quote, if_neg h.ne_backslash]
  split
  · next e => rw [if_pos (h.newline e)]
  · rw [if_neg (by rw [h.visible]; decide)]

/-- Quotes that were pending become text at the next character. -/
theorem step_behind (hk : k ≤ 2) (hc : c ≠ s.quote) (text : List Char) :
    step s text (behind k) c = plainStep s (List.replicate k s.quote ++ text) c := by
  cases k with
  | zero => rfl
  | succ n =>
    show step s text (.quotes n) c = _
    rw [step, if_neg hc, if_neg (by omega)]

/-- In a multi-line string one more quote is pending. -/
theorem step_behind_quote (hs : s.multiline = true) (hk : k < 4) (text : List Char) :
    step s text (behind k) s.quote = .more text (behind (k + 1)) := by
  cases k with
  | zero =>
    show plainStep s text s.quote = _
    rw [plainStep, if_pos rfl, if_pos hs]
    rfl
  | succ n =>
    show step s text (.quotes n) s.quote = _
    rw [step, if_pos rfl, if_neg (by omega)]
    rfl

theorem Style.room_le (s : Style) : s.room ≤ 2 := by
  unfold Style.room
  split <;> omega

theorem Style.multiline_of_room (h : k < s.room) : s.multiline = true := by
  unfold Style.room at h
  split at h
  · assumption
  · omega

/-- Behind three quotes or more a multi-line string ends where no quote follows; the quotes in front
    of the last three are text. -/
theorem readFrom_behind (rest : List Char) (h : ∀ c ∈ rest.head?, c ≠ s.quote) :
    readFrom s text (behind (k + 3)) rest = some (text.reverse ++ List.replicate k s.quote, rest) := by
  have value : (List.replicate k s.quote ++ text).reverse = text.reverse ++ List.replicate k s.quote := by
    rw [List.reverse_append, List.reverse_replicate]
  cases rest with
  | nil =>
    show (if 2 ≤ k + 2 then some ((List.replicate (k + 2 - 2) s.quote ++ text).reverse, []) else none) = _
    rw [if_pos (by omega), Nat.add_sub_cancel, value]
  | cons c rest =>
    have hc : c ≠ s.quote := h c rfl
    have ends : step s text (.quotes (k + 2)) c = .endedBefore (List.replicate k s.quote ++ text) := by
      rw [step, if_neg hc, if_pos (by omega), Nat.add_sub_cancel]
    show readFrom s text (.quotes (k + 2)) (c :: rest) = _
    rw [readFrom, ends, ← value]

/-- At the delimiter a string ends, and the quotes that were pending are text. -/
theorem readFrom_delimiter (hk : k ≤ s.room) (rest : List Char) (h : ∀ c ∈ rest.head?, c ≠ s.quote) :
    readFrom s text (behind k) (s.delimiter ++ rest) =
      some (text.reverse ++ List.replicate k s.quote, rest) := by
  cases hs : s.multiline with
  | false =>
    have hk : k = 0 := by simpa [Style.room, hs] using hk
    have hd : s.delimiter = [s.quote] := by simp [Style.delimiter, hs]
    subst hk
    have ends : step s text .plain s.quote = .ended text := by simp [step, plainStep, hs]
    show readFrom s text .plain (s.delimiter ++ rest) = _
    rw [hd, List.singleton_append, readFrom, ends, List.replicate_zero, List.append_nil]
  | true =>
    have hd : s.delimiter = [s.quote, s.quote, s.quote] := by simp [Style.delimiter, hs]
    have hk : k ≤ 2 := Nat.le_trans hk s.room_le
    have more (j : Nat) (hj : j < 4) (cs : List Char) :
        readFrom s text (behind j) (s.quote :: cs) = readFrom s text (behind (j + 1)) cs := by
      rw [readFrom, step_behind_quote hs hj]
    show readFrom s text (behind k) (s.delimiter ++ rest) = _
    rw [hd]
    show readFrom s text (behind k) (s.quote :: s.quote :: s.quote :: rest) = _
    rw [more k (by omega), more (k + 1) (by omega)]
    rcases Nat.lt_or_eq_of_le hk with hlt | rfl
    · rw [more (k + 2) (by omega)]
      exact readFrom_behind rest h
    · -- The fifth quote in a row ends the string by itself.
      have ends : step s text (.quotes 3) s.quote = .ended (s.quote :: s.quote :: text) := by
        rw [step, if_pos rfl, if_pos rfl]
      show readFrom s text (.quotes 3) (s.quote :: rest) = _
      rw [readFrom, ends]
      simp

/-- **A spelling is read to its text.** -/
theorem readFrom_of_spells {body cs : List Char} (h : Spells s k body cs) (hk : k ≤ s.room)
    (rest : List Char) (hrest : ∀ c ∈ rest.head?, c ≠ s.quote) (text : List Char) :
    readFrom s text (behind k) (body ++ (s.delimiter ++ rest)) =
      some (text.reverse ++ List.replicate k s.quote ++ cs, rest) := by
  induction h generalizing text with
  | nil => rw [List.nil_append, readFrom_delimiter hk rest hrest, List.append_nil]
  | @quote k body cs hlt tail ih =>
    rw [List.cons_append, readFrom,
      step_behind_quote (s.multiline_of_room hlt) (by have := s.room_le; omega)]
    show readFrom s text (behind (k + 1)) (body ++ (s.delimiter ++ rest)) = _
    rw [ih hlt, List.replicate_succ']
    simp
  | @bare k body cs c hc tail ih =>
    rw [List.cons_append, readFrom, step_behind (Nat.le_trans hk s.room_le) hc.ne_quote, plainStep_bare hc]
    show readFrom s _ (behind 0) (body ++ (s.delimiter ++ rest)) = _
    rw [ih (Nat.zero_le _)]
    simp
  | @escape k body cs c code hs hq hcode tail ih =>
    have begins (text : List Char) : plainStep s text '\\' = .more text .escape := by
      rw [plainStep, if_neg hq.symm, if_pos ⟨rfl, hs⟩]
    rw [List.cons_append, List.append_assoc, readFrom, step_behind (Nat.le_trans hk s.room_le) hq.symm, begins]
    show readFrom s _ .escape (code ++ (body ++ (s.delimiter ++ rest))) = _
    rw [hcode.reads]
    show readFrom s _ (behind 0) (body ++ (s.delimiter ++ rest)) = _
    rw [ih (Nat.zero_le _)]
    simp

/-! ## 3. Writing -/

/-- A letter that names a character is its escape. -/
theorem escape_of_named {x : Char} (hx : x ∈ ['b', 't', 'n', 'f', 'r', '"', '\\'])
    (h : named? x = some c) : Escape s [x] c := by
  have other {y : Char} (hy : y ∉ ['b', 't', 'n', 'f', 'r', '"', '\\']) : x ≠ y := fun e => hy (e ▸ hx)
  have hu : x ≠ 'u' := other (by decide)
  have hU : x ≠ 'U' := other (by decide)
  have hspace : x ≠ ' ' := other (by decide)
  have htab : x ≠ '\t' := other (by decide)
  have hline : x ≠ '\n' := other (by decide)
  constructor
  · intro text rest
    have hstep : step s text .escape x = .more (c :: text) .plain := by
      simp [step, h, hu, hU, hspace, htab, hline]
    rw [List.singleton_append, readFrom, hstep]
  · exact fun hm => other (by decide) (List.mem_singleton.1 hm).symm

/-- A written hexadecimal digit is read to its value. -/
theorem hexValue?_digit {d : Nat} (h : d < 16) :
    Json.Quoted.hexValue? d.digitChar.toUpper = some d ∧ d.digitChar.toUpper ≠ '\r' := by
  have all : ∀ d : Fin 16, Json.Quoted.hexValue? d.val.digitChar.toUpper = some d.val ∧
      d.val.digitChar.toUpper ≠ '\r' := by decide
  exact all ⟨d, h⟩

/-- The four digits of its code point are an escape of a character below U+0100. -/
theorem escape_hex4 (h : c.toNat < 256) : Escape s ('u' :: hex4 c.toNat) c where
  reads := by
    intro text rest
    have high := (hexValue?_digit (d := c.toNat / 16) (by omega)).1
    have low := (hexValue?_digit (d := c.toNat % 16) (by omega)).1
    have zero : Json.Quoted.hexValue? '0' = some 0 := by decide
    have value : 16 * (c.toNat / 16) + c.toNat % 16 = c.toNat := by omega
    have scalar : scalar? c.toNat = some c := by
      rw [scalar?, if_pos (show c.toNat.isValidChar from c.valid), Char.ofNat_toNat]
    simp [hex4, readFrom, step, zero, high, low, value, scalar]
  no_return := by
    have high := (hexValue?_digit (d := c.toNat / 16) (by omega)).2
    have low := (hexValue?_digit (d := c.toNat % 16) (by omega)).2
    simp [hex4, high.symm, low.symm]

theorem lt_of_isControl (h : isControl c = true) : c.toNat < 256 := by
  simp only [isControl, Bool.or_eq_true, Bool.and_eq_true, decide_eq_true_eq] at h
  omega

/-- Written with escapes, every text is spelled; the count of quotes is the count of the places. -/
theorem spells_escapeFrom (hq : s.quote = '"') (hs : s.escapes = true) (cs : List Char) (k : Nat) :
    Spells s k (escapeFrom s k cs) cs := by
  have backslash : s.quote ≠ '\\' := by rw [hq]; decide
  have named {k : Nat} {x c : Char} {body text : List Char}
      (hx : x ∈ ['b', 't', 'n', 'f', 'r', '"', '\\']) (h : named? x = some c)
      (tail : Spells s 0 body text) : Spells s k ('\\' :: x :: body) (c :: text) :=
    .escape hs backslash (escape_of_named hx h) tail
  induction cs generalizing k with
  | nil => exact .nil
  | cons c cs ih =>
    rw [escapeFrom]
    split
    · next e =>
      rw [e]
      split
      · next hk =>
        have room : k < s.room := by rw [Style.room, if_pos hk.1]; exact hk.2
        rw [← hq]
        exact .quote room (ih (k + 1))
      · exact named (by decide) rfl (ih 0)
    split
    · next e => rw [e]; exact named (by decide) rfl (ih 0)
    split
    · next e => rw [e]; exact named (by decide) rfl (ih 0)
    split
    · next e => rw [e]; exact named (by decide) rfl (ih 0)
    split
    · next e => rw [e]; exact named (by decide) rfl (ih 0)
    split
    · next e => rw [e]; exact named (by decide) rfl (ih 0)
    split
    · next e => rw [e.1]; exact named (by decide) rfl (ih 0)
    split
    · next e => exact .escape hs backslash (escape_hex4 (lt_of_isControl e)) (ih 0)
    · next quote bs _ _ _ _ newline control =>
      refine .bare ⟨by rwa [hq], fun e => bs e.1, fun e => ?_, ?_⟩ (ih 0)
      · cases hm : s.multiline with
        | true => rfl
        | false => exact absurd ⟨e, by rw [hm]; rfl⟩ newline
      · simpa using control

theorem le_longestRun (c : Char) (cs : List Char) (run best : Nat) : best ≤ longestRun c cs run best := by
  induction cs generalizing run best with
  | nil => exact Nat.le_refl best
  | cons d cs ih =>
    rw [longestRun]
    split
    · exact Nat.le_trans (Nat.le_max_left _ _) (ih _ _)
    · exact ih _ _

/-- A text spells itself if its quotes find room and its other characters are bare. -/
theorem spells_self {cs : List Char} {best : Nat} (h : ∀ c ∈ cs, c ≠ s.quote → s.Bare c)
    (hrun : longestRun s.quote cs k best ≤ s.room) : Spells s k cs cs := by
  induction cs generalizing k best with
  | nil => exact .nil
  | cons c cs ih =>
    have tail : ∀ d ∈ cs, d ≠ s.quote → s.Bare d := fun d hd => h d (List.mem_cons_of_mem c hd)
    rw [longestRun] at hrun
    split at hrun
    · next e =>
      have room : k + 1 ≤ s.room := 
        Nat.le_trans (Nat.le_max_right _ _) (Nat.le_trans (le_longestRun _ _ _ _) hrun)
      rw [e]
      exact .quote room (ih tail hrun)
    · next e => exact .bare (h c List.mem_cons_self e) (ih tail hrun)

/-- The four styles. -/
def styles : List Style := [basic, literal, multiBasic, multiLiteral]

/-- What `styleOf` picks: any style with escapes, and one without if the text needs none. -/
theorem styleOf_cases (cs : List Char) :
    styleOf cs ∈ styles ∧
      ((styleOf cs).escapes = true ∨
        cs.any isControl = false ∧ longestRun (styleOf cs).quote cs 0 0 ≤ (styleOf cs).room ∧
          (cs.contains '\n' = true → (styleOf cs).multiline = true)) := by
  simp only [styleOf]
  split
  · exact ⟨by decide, .inl rfl⟩
  split
  · next h =>
    simp only [Bool.and_eq_true, decide_eq_true_eq, Bool.not_eq_true'] at h
    refine ⟨by decide, .inr ⟨h.1.1, Nat.le_of_eq h.1.2, fun e => ?_⟩⟩
    rw [h.2] at e
    exact absurd e (by decide)
  split
  · exact ⟨by decide, .inl rfl⟩
  split
  · next h =>
    simp only [Bool.and_eq_true, decide_eq_true_eq, Bool.not_eq_true'] at h
    exact ⟨by decide, .inr ⟨h.1, h.2, fun _ => rfl⟩⟩
  split
  · exact ⟨by decide, .inl rfl⟩
  · exact ⟨by decide, .inl rfl⟩

/-- What is written between the delimiters spells the text. -/
theorem spells_styleOf (cs : List Char) :
    Spells (styleOf cs) 0
      (if (styleOf cs).escapes then escapeFrom (styleOf cs) 0 cs else cs) cs := by
  obtain ⟨hmem, hcase⟩ := styleOf_cases cs
  generalize styleOf cs = s at hmem hcase
  have quote : ∀ s ∈ styles, s.escapes = true → s.quote = '"' := by decide
  by_cases hs : s.escapes = true
  · rw [if_pos hs]
    exact spells_escapeFrom (quote s hmem hs) hs cs 0
  · rw [if_neg hs]
    obtain ⟨hcontrol, hrun, hnewline⟩ := hcase.resolve_left hs
    refine spells_self (fun c hc hq => ⟨hq, fun e => hs e.2, fun e => hnewline ?_, ?_⟩) hrun
    · exact List.contains_iff_mem.2 (e ▸ hc)
    · exact Bool.eq_false_iff.2 (List.any_eq_false.1 hcontrol c hc)

/-! ## 4. Whole strings -/

/-- Behind the opening delimiter and the line break that may follow it, the text is read. -/
theorem readBody_of_spells {body cs : List Char} (hmem : s ∈ styles) (h : Spells s 0 body cs)
    (rest : List Char) (hrest : ∀ c ∈ rest.head?, c ≠ s.quote) :
    readBody s ((if s.multiline ∧ cs.contains '\n' then ['\n'] else []) ++
      (body ++ (s.delimiter ++ rest))) = some (cs, rest) := by
  have reads : readFrom s [] .plain (body ++ (s.delimiter ++ rest)) = some (cs, rest) :=
    readFrom_of_spells h (Nat.zero_le _) rest hrest []
  have hq : ∀ s ∈ styles, s.quote ≠ '\n' ∧ s.delimiter = s.quote :: s.delimiter.tail := by decide
  obtain ⟨hq, hd⟩ := hq s hmem
  split
  · next hm =>
    show readBody s ('\n' :: (body ++ (s.delimiter ++ rest))) = _
    unfold readBody
    rw [hm.1]
    exact reads
  · next hm =>
    -- Without a line break in the text there is none behind the delimiter.
    rw [List.nil_append]
    unfold readBody
    split
    · next rest' hs e =>
      exfalso
      cases body with
      | nil =>
        rw [List.nil_append, hd] at e
        exact hq (List.cons.inj e).1
      | cons c body =>
        obtain ⟨rfl, -⟩ := List.cons.inj e
        rcases h.head rfl with ⟨e, -⟩ | ⟨e, -⟩ | ⟨-, hc⟩
        · exact hq e.symm
        · exact absurd e (by decide)
        · exact hm ⟨hs, List.contains_iff_mem.2 hc⟩
    · exact reads

/-- Of the two forms of a quote the one that was written is read. -/
theorem readEither_of_spells {body cs : List Char} (single multi : Style)
    (hmem : s ∈ styles) (hs : s = if s.multiline then multi else single) (hquote : single.quote = s.quote)
    (h : Spells s 0 body cs) (rest : List Char) (hrest : ∀ c ∈ rest.head?, c ≠ s.quote) :
    readEither single multi (s.delimiter.tail ++ ((if s.multiline ∧ cs.contains '\n' then ['\n'] else []) ++
      (body ++ (s.delimiter ++ rest)))) = some (cs, rest) := by
  have reads := readBody_of_spells hmem h rest hrest
  cases hm : s.multiline with
  | true =>
    rw [hm] at hs reads
    have hd : s.delimiter.tail = [s.quote, s.quote] := by simp [Style.delimiter, hm]
    rw [hd]
    show (if s.quote = single.quote ∧ s.quote = single.quote then _ else _) = _
    rw [if_pos ⟨hquote.symm, hquote.symm⟩]
    rw [if_pos rfl] at hs
    rw [← hs]
    exact reads
  | false =>
    have hd : s.delimiter = [s.quote] := by simp [Style.delimiter, hm]
    rw [hm] at hs reads
    simp only [Bool.false_eq_true, false_and, if_false, List.nil_append] at hs reads ⊢
    rw [hd] at reads ⊢
    show readEither single multi (body ++ (s.quote :: rest)) = _
    subst hs
    have room : s.room = 0 := by simp [Style.room, hm]
    unfold readEither
    split
    · next a b others e =>
      -- Two quotes would be a body that begins with one, or no body and a quote behind the string.
      rw [if_neg]
      · exact reads
      · rintro ⟨rfl, rfl⟩
        cases body with
        | nil =>
          obtain ⟨-, rfl⟩ := List.cons.inj e
          exact hrest _ rfl rfl
        | cons c body =>
          obtain ⟨rfl, -⟩ := List.cons.inj e
          rcases h.head rfl with ⟨-, hk⟩ | ⟨e, hne⟩ | ⟨hc, -⟩
          · omega
          · exact hne e
          · exact hc.ne_quote rfl
    · exact reads

/-- What is written, cut behind its first quote. -/
theorem write_eq (cs : List Char) :
    write cs = (styleOf cs).quote :: ((styleOf cs).delimiter.tail ++
      ((if (styleOf cs).multiline ∧ cs.contains '\n' then ['\n'] else []) ++
        ((if (styleOf cs).escapes then escapeFrom (styleOf cs) 0 cs else cs) ++
          (styleOf cs).delimiter))) := by
  have hd : (styleOf cs).delimiter = (styleOf cs).quote :: (styleOf cs).delimiter.tail := by
    have all : ∀ s ∈ styles, s.delimiter = s.quote :: s.delimiter.tail := by decide
    exact all _ (styleOf_cases cs).1
  rw [write, writeAs, List.append_assoc, List.append_assoc]
  conv => lhs; arg 1; rw [hd]
  rw [List.cons_append]

/-- **Reading undoes writing**, whatever follows the string, if it is not a quote. -/
theorem read?_write (cs rest : List Char) (hrest : ∀ c ∈ rest.head?, c ≠ '"' ∧ c ≠ '\'') :
    read? (write cs ++ rest) = some (cs, rest) := by
  have hmem := (styleOf_cases cs).1
  have hspells := spells_styleOf cs
  rw [write_eq]
  generalize styleOf cs = s at hmem hspells
  generalize (if s.escapes then escapeFrom s 0 cs else cs) = body at hspells
  have form : (s.quote = '"' ∧ s = if s.multiline then multiBasic else basic) ∨
      (s.quote = '\'' ∧ s = if s.multiline then multiLiteral else literal) := by
    clear hspells
    revert s
    decide
  simp only [List.cons_append, List.append_assoc]
  rcases form with ⟨hq, hs⟩ | ⟨hq, hs⟩
  · have closes : ∀ c ∈ rest.head?, c ≠ s.quote := fun c hc => hq ▸ (hrest c hc).1
    rw [← readEither_of_spells basic multiBasic hmem hs hq.symm hspells rest closes, hq]
    rfl
  · have closes : ∀ c ∈ rest.head?, c ≠ s.quote := fun c hc => hq ▸ (hrest c hc).2
    rw [← readEither_of_spells literal multiLiteral hmem hs hq.symm hspells rest closes, hq]
    rfl

/-- A text with both quotes in one line stands between triple quotes, the last behind a quote of its own. -/
example : write ['\'', '"'] = ['"', '"', '"', '\'', '"', '"', '"', '"'] := by decide

/-- A written string begins with a quote. -/
theorem head_write (cs : List Char) : ∃ rest, write cs = '"' :: rest ∨ write cs = '\'' :: rest := by
  have quotes : ∀ s ∈ styles, s.quote = '"' ∨ s.quote = '\'' := by decide
  rw [write_eq]
  rcases quotes _ (styleOf_cases cs).1 with h | h <;> rw [h]
  · exact ⟨_, .inl rfl⟩
  · exact ⟨_, .inr rfl⟩

/-- A written string holds no carriage return. -/
theorem no_return_write (cs : List Char) : '\r' ∉ write cs := by
  have styled : ∀ s ∈ styles, s.quote ≠ '\r' ∧ '\r' ∉ s.delimiter := by decide
  obtain ⟨hq, hd⟩ := styled _ (styleOf_cases cs).1
  have hbody := (spells_styleOf cs).no_return hq
  have hbreak : '\r' ∉ (if (styleOf cs).multiline ∧ cs.contains '\n' then ['\n'] else []) := by
    split <;> decide
  rw [write, writeAs]
  simp only [List.mem_append]
  intro h
  rcases h with ((h | h) | h) | h
  · exact hd h
  · exact hbreak h
  · exact hbody h
  · exact hd h

end LoopLowering.Toml.Quoted
