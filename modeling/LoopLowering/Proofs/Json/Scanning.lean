/-
  Scanning a written text: the tokens of a layout are found again.

  1.  NUMBERS.  The text of a number has no leading zero, so reading it gives the number
      (`ofChars?_text`).

  2.  PIECES.  A word (a literal name or a number) ends only where the next character cannot belong to
      one.  The machine may therefore stand inside a word that is complete; `Settled` lists the two
      states in which all tokens so far are known.  Between settled states a piece is scanned whole
      (`scan_blank`, `scan_string`, `scan_mark`, `scan_word`).

  3.  LAYOUTS.  A list of pieces scans to its tokens if no two words touch (`apart`) and its blanks are
      blanks (`tokens?_pieces`).
-/
import LoopLowering.Json.Printer

namespace LoopLowering.Json

open LoopLowering.Text

/-! ## 1. Numbers -/

/-- A written number other than zero does not begin with a zero. -/
theorem head?_digits {n : Nat} (h : 0 < n) : (Decimal.digits n).head? ≠ some '0' := by
  induction n using Nat.strongRecOn with
  | _ n ih =>
    rcases Nat.lt_or_ge n 10 with hlt | hge
    · have small : ∀ d : Fin 10, 0 < d.val → d.val.digitChar ≠ '0' := by decide
      rw [Decimal.digits, Nat.toDigits_of_lt_base hlt]
      exact fun e => small ⟨n, hlt⟩ h (Option.some.inj e)
    · have front := ih (n / 10) (by omega) (by omega)
      rw [Decimal.digits] at front ⊢
      rw [Nat.toDigits_of_base_le (by omega) hge, List.head?_append]
      cases h : (Nat.toDigits 10 (n / 10)).head? with
      | none => exact absurd (List.head?_eq_none_iff.1 h) Nat.toDigits_ne_nil
      | some c => exact fun e => front (h.trans e)

/-- A written number is nothing but digits, so it is read up to where they end. -/
theorem span_digits (n : Nat) (rest : List Char) (h : ∀ c, rest.head? = some c → c.isDigit = false) :
    (Decimal.digits n ++ rest).takeWhile Char.isDigit = Decimal.digits n ∧
      (Decimal.digits n ++ rest).dropWhile Char.isDigit = rest := by
  have digits : ∀ c ∈ Decimal.digits n, c.isDigit = true := fun c hc => Decimal.isDigit_of_mem_digits hc
  rw [List.takeWhile_append_of_pos digits, List.dropWhile_append_of_pos digits]
  cases rest with
  | nil => exact ⟨List.append_nil _, rfl⟩
  | cons c rest =>
    have hc := h c rfl
    rw [List.takeWhile_cons_of_neg (by simp [hc]), List.dropWhile_cons_of_neg (by simp [hc]),
      List.append_nil]
    exact ⟨rfl, rfl⟩

/-- A written number does not look like one with a leading zero. -/
theorem plain_digits (n : Nat) : ¬ (Decimal.digits n = [] ∨
    ((Decimal.digits n).head? = some '0' ∧ 1 < (Decimal.digits n).length)) := by
  rintro (h | ⟨h, hlen⟩)
  · exact Decimal.digits_ne_nil n h
  · rcases Nat.eq_zero_or_pos n with rfl | hpos
    · exact absurd hlen (by decide)
    · exact head?_digits hpos h

namespace Number

theorem unsigned?_whole (negative : Bool) (n : Nat) :
    unsigned? negative (Decimal.digits n) = some (.whole negative n) := by
  obtain ⟨htake, hdrop⟩ := span_digits n [] (fun c hc => by simp at hc)
  rw [List.append_nil] at htake hdrop
  rw [unsigned?]
  simp only [htake, hdrop]
  rw [if_neg (plain_digits n), Decimal.value_digits]

theorem unsigned?_scaled (negative : Bool) (n : Nat) (e : Int) :
    unsigned? negative (Decimal.digits n ++ 'e' :: Decimal.signed e) = some (.scaled negative n e) := by
  obtain ⟨htake, hdrop⟩ := span_digits n ('e' :: Decimal.signed e) (fun c hc => by
    rw [← Option.some.inj hc]
    decide)
  rw [unsigned?]
  simp only [htake, hdrop]
  rw [if_neg (plain_digits n)]
  show scale? negative (Decimal.digits n) [] ('e' :: Decimal.signed e) = _
  simp [scale?]

/-- A text that begins with a digit has no sign. -/
theorem ofChars?_of_isDigit {c : Char} (h : c.isDigit = true) (rest : List Char) :
    ofChars? (c :: rest) = unsigned? false (c :: rest) := by
  unfold ofChars?
  split
  · rename_i e
    rw [(List.cons.inj e).1] at h
    exact absurd h (by decide)
  · rfl

/-- Reading a written number gives the number. -/
theorem ofChars?_text (n : Number) : ofChars? n.text = some n := by
  have first : ∀ (k : Nat) (rest : List Char), ofChars? (Decimal.digits k ++ rest) =
      unsigned? false (Decimal.digits k ++ rest) := by
    intro k rest
    cases h : Decimal.digits k with
    | nil => exact absurd h (Decimal.digits_ne_nil k)
    | cons c cs => exact ofChars?_of_isDigit (Decimal.isDigit_of_mem_digits (h ▸ List.mem_cons_self)) _
  cases n with
  | whole negative m =>
    cases negative with
    | true => exact unsigned?_whole true m
    | false =>
      have h := first m []
      rw [List.append_nil] at h
      exact h.trans (unsigned?_whole false m)
  | scaled negative m e =>
    cases negative with
    | true => exact unsigned?_scaled true m e
    | false => exact (first m _).trans (unsigned?_scaled false m e)

end Number

/-! ## 2. Pieces -/

/-- Whether a token is a word: a literal name or a number. -/
def Token.isWord : Token → Bool
  | .null => true
  | .bool _ => true
  | .number _ => true
  | _ => false

theorem isWordChar_of_isDigit {c : Char} (h : c.isDigit = true) : isWordChar c = true := by
  simp [isWordChar, Char.isAlphanum, h]

/-- The characters of a written number. -/
theorem mem_text {n : Number} {c : Char} (h : c ∈ n.text) : c = '-' ∨ c = 'e' ∨ c.isDigit = true := by
  have signed : ∀ (i : Int), c ∈ Decimal.signed i → c = '-' ∨ c = 'e' ∨ c.isDigit = true := by
    intro i hc
    unfold Decimal.signed at hc
    split at hc
    · rcases List.mem_cons.1 hc with hc | hc
      · exact Or.inl hc
      · exact Or.inr (Or.inr (Decimal.isDigit_of_mem_digits hc))
    · exact Or.inr (Or.inr (Decimal.isDigit_of_mem_digits hc))
  have sign : ∀ negative : Bool, c ∈ (if negative then ['-'] else []) → c = '-' := by
    intro negative hc
    cases negative <;> simp at hc
    exact hc
  cases n with
  | whole negative m =>
    rcases List.mem_append.1 h with h | h
    · exact Or.inl (sign negative h)
    · exact Or.inr (Or.inr (Decimal.isDigit_of_mem_digits h))
  | scaled negative m e =>
    rcases List.mem_append.1 h with h | h
    · rcases List.mem_append.1 h with h | h
      · exact Or.inl (sign negative h)
      · exact Or.inr (Or.inr (Decimal.isDigit_of_mem_digits h))
    · rcases List.mem_cons.1 h with h | h
      · exact Or.inr (Or.inl h)
      · exact signed e h

/-- A written number has a digit, so it is no literal name. -/
theorem exists_isDigit_mem_text (n : Number) : ∃ c ∈ n.text, c.isDigit = true := by
  have digit : ∀ m, ∃ c ∈ Decimal.digits m, c.isDigit = true := fun m => by
    obtain ⟨c, hc⟩ := List.exists_mem_of_ne_nil _ (Decimal.digits_ne_nil m)
    exact ⟨c, hc, Decimal.isDigit_of_mem_digits hc⟩
  cases n with
  | whole negative m =>
    obtain ⟨c, hc, hd⟩ := digit m
    exact ⟨c, List.mem_append_right _ hc, hd⟩
  | scaled negative m e =>
    obtain ⟨c, hc, hd⟩ := digit m
    exact ⟨c, List.mem_append_left _ (List.mem_append_right _ hc), hd⟩

/-- A word consists of characters that belong to words. -/
theorem Token.isWordChar_of_mem {t : Token} (h : t.isWord = true) {c : Char} (hc : c ∈ t.text) :
    isWordChar c = true := by
  cases t with
  | null => exact List.all_eq_true.1 (show Token.null.text.all isWordChar = true by decide) c hc
  | bool b =>
    have all : (Token.bool b).text.all isWordChar = true := by cases b <;> decide
    exact List.all_eq_true.1 all c hc
  | number n =>
    rcases mem_text hc with rfl | rfl | hd
    · decide
    · decide
    · exact isWordChar_of_isDigit hd
  | _ => exact absurd h Bool.false_ne_true

/-- A word is read as the token that it is the text of. -/
theorem Token.ofWord?_text {t : Token} (h : t.isWord = true) : Token.ofWord? t.text = some t := by
  cases t with
  | null => rfl
  | bool b => cases b <;> rfl
  | number n =>
    obtain ⟨c, hc, hd⟩ := exists_isDigit_mem_text n
    have other : ∀ name : List Char, name.any Char.isDigit = false → n.text ≠ name := by
      rintro name hname rfl
      exact Bool.false_ne_true (hname ▸ List.any_eq_true.2 ⟨c, hc, hd⟩)
    show Token.ofWord? n.text = _
    rw [Token.ofWord?, if_neg (other _ (by decide)), if_neg (other _ (by decide)),
      if_neg (other _ (by decide)), Number.ofChars?_text]
    rfl
  | _ => exact absurd h Bool.false_ne_true

/-- The state of a machine that knows all tokens so far, the latest first; the flag tells whether it
    stands inside the last one, a complete word. -/
inductive Settled : Bool → List Token → List Token × Scan → Prop
  | between (done : List Token) : Settled false done (done, .between)
  | word {t : Token} {done : List Token} {read : List Char} (h : Token.ofWord? read.reverse = some t) :
      Settled true (t :: done) (done, .word read)

/-- At a character that belongs to no word, a settled machine begins anew. -/
theorem Settled.step {w : Bool} {done : List Token} {s : List Token × Scan} (h : Settled w done s) {c : Char}
    (hc : isWordChar c = false) : Scan.step s c = Scan.start done c := by
  cases h with
  | between => rfl
  | word h =>
    rw [Scan.step, if_neg (by simp [hc]), h]

theorem Settled.finish {w : Bool} {done : List Token} {s : List Token × Scan} (h : Settled w done s) :
    Scan.finish s = some done.reverse := by
  cases h with
  | between => rfl
  | word h =>
    rw [Scan.finish, h]
    rfl

/-- Inside a word, the characters of words are collected. -/
theorem foldlM_word {done : List Token} {cs : List Char} (h : ∀ c ∈ cs, isWordChar c = true)
    (read : List Char) :
    cs.foldlM Scan.step (done, .word read) = some (done, .word (cs.reverse ++ read)) := by
  induction cs generalizing read with
  | nil => rfl
  | cons c cs ih =>
    have hc := h c List.mem_cons_self
    have hstep : Scan.step (done, .word read) c = some (done, .word (c :: read)) := if_pos hc
    rw [List.foldlM_cons, hstep, List.reverse_cons, List.append_assoc]
    exact ih (fun d hd => h d (List.mem_cons_of_mem c hd)) (c :: read)

theorem start_of_isWordChar (done : List Token) {c : Char} (h : isWordChar c = true) :
    Scan.start done c = some (done, .word [c]) := by
  have hspace : ¬ isSpace c = true := by
    intro hs
    rcases of_decide_eq_true hs with rfl | rfl | rfl | rfl <;> exact absurd h (by decide)
  have hquote : c ≠ '"' := by
    rintro rfl
    exact absurd h (by decide)
  rw [Scan.start, if_neg hspace, if_neg hquote, if_pos h]

/-- Between tokens, a word is scanned up to where it may end. -/
theorem scan_word {t : Token} (h : t.isWord = true) (done : List Token) :
    ∃ s, t.text.foldlM Scan.step (done, .between) = some s ∧ Settled true (t :: done) s := by
  have chars : ∀ c ∈ t.text, isWordChar c = true := fun c hc => Token.isWordChar_of_mem h hc
  have hread := Token.ofWord?_text h
  cases hcs : t.text with
  | nil =>
    have empty : Token.ofWord? [] = none := by decide
    rw [hcs, empty] at hread
    exact absurd hread nofun
  | cons c cs =>
    rw [hcs] at chars hread
    have hstep : Scan.step (done, .between) c = some (done, .word [c]) :=
      start_of_isWordChar done (chars c List.mem_cons_self)
    refine ⟨(done, .word (cs.reverse ++ [c])), ?_, Settled.word ?_⟩
    · rw [List.foldlM_cons, hstep]
      exact foldlM_word (fun d hd => chars d (List.mem_cons_of_mem c hd)) [c]
    · rw [List.reverse_append, List.reverse_reverse]
      exact hread

/-- A run of blanks, which is not empty, ends a word and is dropped. -/
theorem scan_blank {w : Bool} {done : List Token} {s : List Token × Scan} (h : Settled w done s)
    {cs : List Char} (hne : cs ≠ []) (hcs : ∀ c ∈ cs, isSpace c = true) :
    cs.foldlM Scan.step s = some (done, .between) := by
  have foreign : ∀ c, isSpace c = true → isWordChar c = false := by
    intro c hc
    rcases of_decide_eq_true hc with rfl | rfl | rfl | rfl <;> decide
  induction cs generalizing w s with
  | nil => exact absurd rfl hne
  | cons c cs ih =>
    have hc := hcs c List.mem_cons_self
    have hstart : Scan.start done c = some (done, .between) := if_pos hc
    rw [List.foldlM_cons, h.step (foreign c hc), hstart]
    cases cs with
    | nil => rfl
    | cons d cs =>
      exact ih (Settled.between done) (List.cons_ne_nil d cs) fun e he => hcs e (List.mem_cons_of_mem c he)

/-- A punctuation mark ends a word. -/
theorem scan_mark {w : Bool} {done : List Token} {s : List Token × Scan} (h : Settled w done s) {c : Char}
    {t : Token} (hc : Token.ofMark? c = some t) : Scan.step s c = some (t :: done, .between) := by
  have six : c = '[' ∨ c = ']' ∨ c = '\x7b' ∨ c = '\x7d' ∨ c = ':' ∨ c = ',' := by
    unfold Token.ofMark? at hc
    split at hc <;> simp at hc ⊢
  have hforeign : isWordChar c = false := by
    rcases six with rfl | rfl | rfl | rfl | rfl | rfl <;> decide
  rw [h.step hforeign]
  rcases six with rfl | rfl | rfl | rfl | rfl | rfl <;> (rw [← Option.some.inj hc]; rfl)

/-- A character that neither ends a quoted text nor escapes in it. -/
def IsPlain (c : Char) : Prop := c ≠ '"' ∧ c ≠ '\\'

instance (c : Char) : Decidable (IsPlain c) := inferInstanceAs (Decidable (_ ∧ _))

/-- Inside a quoted text, plain characters are collected. -/
theorem foldlM_plain (done : List Token) {cs : List Char} (h : ∀ c ∈ cs, IsPlain c) (read : List Char) :
    cs.foldlM Scan.step (done, .quoted read) = some (done, .quoted (cs.reverse ++ read)) := by
  induction cs generalizing read with
  | nil => rfl
  | cons c cs ih =>
    obtain ⟨hquote, hback⟩ := h c List.mem_cons_self
    have hstep : Scan.step (done, .quoted read) c = some (done, .quoted (c :: read)) := by
      rw [Scan.step, if_neg hquote, if_neg hback]
    rw [List.foldlM_cons, hstep, List.reverse_cons, List.append_assoc]
    exact ih (fun d hd => h d (List.mem_cons_of_mem c hd)) (c :: read)

/-- A backslash takes the character behind it into the text, whatever it is. -/
theorem foldlM_backslash (done : List Token) (x : Char) {cs : List Char} (h : ∀ c ∈ cs, IsPlain c)
    (read : List Char) :
    ('\\' :: x :: cs).foldlM Scan.step (done, .quoted read) =
      some (done, .quoted (('\\' :: x :: cs).reverse ++ read)) := by
  have hfirst : Scan.step (done, .quoted read) '\\' = some (done, .escaped ('\\' :: read)) := rfl
  have hsecond : Scan.step (done, .escaped ('\\' :: read)) x = some (done, .quoted (x :: '\\' :: read)) := rfl
  rw [List.foldlM_cons, hfirst]
  show ((x :: cs).foldlM Scan.step (done, .escaped ('\\' :: read))) = _
  rw [List.foldlM_cons, hsecond]
  show cs.foldlM Scan.step (done, .quoted (x :: '\\' :: read)) = _
  rw [foldlM_plain done h, List.reverse_cons, List.reverse_cons, List.append_assoc, List.append_assoc]
  rfl

theorem isPlain_digitChar {d : Nat} (h : d < 16) : IsPlain d.digitChar := by
  have sixteen : ∀ d : Fin 16, IsPlain d.val.digitChar := by decide
  exact sixteen ⟨d, h⟩

/-- Inside a quoted text, a written character is collected. -/
theorem foldlM_escapeChar (done : List Token) (read : List Char) (c : Char) :
    (Quoted.escapeChar c).foldlM Scan.step (done, .quoted read) =
      some (done, .quoted ((Quoted.escapeChar c).reverse ++ read)) := by
  have named : ∀ x : Char, (['\\', x] : List Char).foldlM Scan.step (done, .quoted read) =
      some (done, .quoted ((['\\', x] : List Char).reverse ++ read)) :=
    fun x => foldlM_backslash done x (fun _ h => absurd h List.not_mem_nil) read
  unfold Quoted.escapeChar
  split
  · exact named '"'
  rename_i hquote
  split
  · exact named '\\'
  rename_i hback
  split
  · exact named 'b'
  split
  · exact named 'f'
  split
  · exact named 'n'
  split
  · exact named 'r'
  split
  · exact named 't'
  split
  · rename_i hcontrol
    refine foldlM_backslash done 'u' (fun d hd => ?_) read
    simp only [List.mem_cons, List.not_mem_nil, or_false] at hd
    rcases hd with rfl | rfl | rfl | rfl
    · decide
    · decide
    · exact isPlain_digitChar (by omega)
    · exact isPlain_digitChar (by omega)
  · refine foldlM_plain done (fun d hd => ?_) read
    rw [List.mem_singleton.1 hd]
    exact ⟨hquote, hback⟩

/-- Inside a quoted text, a written text is collected. -/
theorem foldlM_stringText (done : List Token) (s : Option String) :
    (stringText s).foldlM Scan.step (done, .quoted []) = some (done, .quoted (stringText s).reverse) := by
  have collect : ∀ (cs read : List Char), (Quoted.escape cs).foldlM Scan.step (done, .quoted read) =
      some (done, .quoted ((Quoted.escape cs).reverse ++ read)) := by
    intro cs
    induction cs with
    | nil => intro read; rfl
    | cons c cs ih =>
      intro read
      have hcons : Quoted.escape (c :: cs) = Quoted.escapeChar c ++ Quoted.escape cs := List.flatMap_cons
      rw [hcons, List.foldlM_append, foldlM_escapeChar, List.reverse_append, List.append_assoc]
      exact ih _
  cases s with
  | some s =>
    have h := collect s.toList []
    rw [List.append_nil] at h
    exact h
  | none => rfl

/-- What stands between the quotes of a written string gives the string. -/
theorem unescape?_stringText (s : Option String) : Quoted.unescape? (stringText s) = some s := by
  cases s with
  | some s =>
    have h := Quoted.unescape?_escape s.toList
    rw [String.ofList_toList] at h
    exact h
  | none => decide

/-- A quoted text ends a word and is scanned whole. -/
theorem scan_string {w : Bool} {done : List Token} {state : List Token × Scan} (h : Settled w done state)
    (s : Option String) :
    (Token.string s).text.foldlM Scan.step state = some (.string s :: done, .between) := by
  have hopen : Scan.step state '"' = some (done, .quoted []) := h.step (by decide)
  have hclose :
      Scan.step (done, .quoted (stringText s).reverse) '"' = some (.string s :: done, .between) := by
    show (Quoted.unescape? (stringText s).reverse.reverse).map _ = _
    rw [List.reverse_reverse, unescape?_stringText]
    rfl
  show ('"' :: (stringText s ++ ['"'])).foldlM Scan.step state = _
  rw [List.foldlM_cons, hopen]
  show (stringText s ++ ['"']).foldlM Scan.step (done, .quoted []) = _
  rw [List.foldlM_append, foldlM_stringText]
  show (['"'] : List Char).foldlM Scan.step (done, .quoted (stringText s).reverse) = _
  rw [List.foldlM_cons, hclose]
  rfl

/-! ## 3. Layouts -/

/-- Whether a piece is a word. -/
def Piece.isWord : Piece → Bool
  | .token t => t.isWord
  | .blank _ => false

/-- The token of a piece. -/
def Piece.token? : Piece → Option Token
  | .token t => some t
  | .blank _ => none

/-- A run of blanks is not empty and has blanks only. -/
def Piece.Sound : Piece → Prop
  | .token _ => True
  | .blank cs => cs ≠ [] ∧ ∀ c ∈ cs, isSpace c = true

/-- Whether no word touches the next; the flag tells whether a word stands before the pieces. -/
def apart : Bool → List Piece → Bool
  | _, [] => true
  | w, p :: ps => !(w && p.isWord) && apart p.isWord ps

/-- A settled machine scans a piece and is settled again. -/
theorem scan_piece {w : Bool} {done : List Token} {s : List Token × Scan} (h : Settled w done s) {p : Piece}
    (hw : (w && p.isWord) = false) (hp : p.Sound) :
    ∃ s', p.text.foldlM Scan.step s = some s' ∧ Settled p.isWord (p.token?.toList ++ done) s' := by
  have mark : ∀ (c : Char) (t : Token), Token.ofMark? c = some t →
      ∃ s', ([c] : List Char).foldlM Scan.step s = some s' ∧ Settled false (t :: done) s' := by
    intro c t hc
    refine ⟨_, ?_, Settled.between (t :: done)⟩
    rw [List.foldlM_cons, scan_mark h hc]
    rfl
  cases p with
  | blank cs => exact ⟨_, scan_blank h hp.1 hp.2, Settled.between done⟩
  | token t =>
    cases ht : t.isWord with
    | true =>
      have hw' : w = false := by
        rw [Piece.isWord, ht, Bool.and_true] at hw
        exact hw
      subst hw'
      cases h with
      | between =>
        have hword := scan_word ht done
        rw [← ht] at hword
        exact hword
    | false =>
      cases t with
      | string s => exact ⟨_, scan_string h s, Settled.between _⟩
      | openArray => exact mark '[' _ rfl
      | closeArray => exact mark ']' _ rfl
      | openObject => exact mark '\x7b' _ rfl
      | closeObject => exact mark '\x7d' _ rfl
      | colon => exact mark ':' _ rfl
      | comma => exact mark ',' _ rfl
      | null => exact absurd ht.symm Bool.false_ne_true
      | bool _ => exact absurd ht.symm Bool.false_ne_true
      | number _ => exact absurd ht.symm Bool.false_ne_true

/-- A settled machine scans pieces and is settled again. -/
theorem scan_pieces {ps : List Piece} {w : Bool} {done : List Token} {s : List Token × Scan}
    (h : Settled w done s) (hw : apart w ps = true) (hp : ∀ p ∈ ps, p.Sound) :
    ∃ w' s', (ps.flatMap Piece.text).foldlM Scan.step s = some s' ∧
      Settled w' ((ps.filterMap Piece.token?).reverse ++ done) s' := by
  induction ps generalizing w done s with
  | nil => exact ⟨w, s, rfl, h⟩
  | cons p ps ih =>
    rw [apart, Bool.and_eq_true, Bool.not_eq_true'] at hw
    obtain ⟨s₁, hscan, h₁⟩ := scan_piece h hw.1 (hp p List.mem_cons_self)
    obtain ⟨w', s₂, hrest, h₂⟩ := ih h₁ hw.2 fun q hq => hp q (List.mem_cons_of_mem p hq)
    refine ⟨w', s₂, ?_, ?_⟩
    · rw [List.flatMap_cons, List.foldlM_append, hscan]
      exact hrest
    · cases p with
      | blank cs => exact h₂
      | token t =>
        have hcons : (Piece.token t :: ps).filterMap Piece.token? = t :: ps.filterMap Piece.token? := rfl
        rw [hcons, List.reverse_cons, List.append_assoc]
        exact h₂

/-- **The tokens of a layout are found again.** -/
theorem tokens?_pieces {ps : List Piece} (hw : apart false ps = true) (hp : ∀ p ∈ ps, p.Sound) :
    tokens? (ps.flatMap Piece.text) = some (ps.filterMap Piece.token?) := by
  obtain ⟨w', s, hscan, h⟩ := scan_pieces (Settled.between []) hw hp
  rw [tokens?, hscan]
  show Scan.finish s = _
  rw [h.finish, List.append_nil, List.reverse_reverse]

end LoopLowering.Json
