/-
  Reading undoes writing, for every value and both layouts.

  1.  READER.  Where the reader waits for a value, the tokens of a value take it to the state behind that
      value, whatever frames stand open (`Reader.takes`).  Items and fields are taken one at a
      time, each handed to the frame that holds those before it.

  2.  LAYOUTS.  Both layouts have the tokens of the value (`filterMap_pretty`), and no two words touch in
      either (`clear_compact`, `clear_pretty`).

  With the scanner's law for layouts this gives `read?_compactText` and `read?_prettyText`.
-/
import LoopLowering.Json.Reader
import LoopLowering.Proofs.Json.Scanning

namespace LoopLowering.Json

/-- What holds of simple values, and passes from the items of an array and the fields of an object to the
    whole, holds of every value. -/
@[elab_as_elim]
theorem induct {motive : Json → Prop} (null : motive .null) (bool : ∀ b, motive (.bool b))
    (number : ∀ n, motive (.number n)) (string : ∀ s, motive (.string s))
    (array : ∀ items, (∀ v ∈ items, motive v) → motive (.array items))
    (object : ∀ fields, (∀ f ∈ fields, motive f.2) → motive (.object fields)) (j : Json) : motive j :=
  Json.rec (motive_1 := motive) (motive_2 := fun items => ∀ v ∈ items, motive v)
    (motive_3 := fun fields => ∀ f ∈ fields, motive f.2) (motive_4 := fun f => motive f.2)
    null bool number string array object
    (fun _ h => absurd h List.not_mem_nil)
    (fun _ _ ihv ihrest v hv => by
      rcases List.mem_cons.1 hv with rfl | hv
      · exact ihv
      · exact ihrest v hv)
    (fun _ h => absurd h List.not_mem_nil)
    (fun _ _ ihf ihrest f hf => by
      rcases List.mem_cons.1 hf with rfl | hf
      · exact ihf
      · exact ihrest f hf)
    (fun _ _ ih => ih) j

/-! ## 1. The reader -/

namespace Reader

/-- What is true of a value that the reader takes, whatever stands open and follows. -/
def Takes (v : Json) : Prop :=
  ∀ (frames : List Frame) (rest : List Token),
    (tokensBefore rest v).foldlM step ⟨frames, .value⟩ = rest.foldlM step ⟨frames, .next v⟩

/-- At a token that begins a value the reader begins one. -/
theorem step_value (t : Token) (h : t ≠ .closeArray) (frames : List Frame) :
    step ⟨frames, .value⟩ t = beginValue frames t := by
  simp only [step]
  split
  · exact absurd rfl h
  · rfl

/-- The items of an array are taken one after the other. -/
theorem foldlM_itemTokensBefore {items : List Json} (h : ∀ v ∈ items, Takes v) (hne : items ≠ [])
    (read : List Json) (frames : List Frame) (rest : List Token) :
    (itemTokensBefore (.closeArray :: rest) items).foldlM step ⟨.array read :: frames, .value⟩ =
      rest.foldlM step ⟨frames, .next (.array (read.reverse ++ items))⟩ := by
  induction items generalizing read with
  | nil => exact absurd rfl hne
  | cons v others ih =>
    have hv := h v List.mem_cons_self
    cases others with
    | nil =>
      rw [itemTokensBefore, hv, List.foldlM_cons]
      show rest.foldlM step ⟨frames, .next (.array (v :: read).reverse)⟩ = _
      rw [List.reverse_cons]
    | cons w others =>
      rw [itemTokensBefore, hv, List.foldlM_cons]
      show (itemTokensBefore _ (w :: others)).foldlM step ⟨.array (v :: read) :: frames, .value⟩ = _
      rw [ih (fun u hu => h u (List.mem_cons_of_mem v hu)) (List.cons_ne_nil w others),
        List.reverse_cons, List.append_assoc]
      rfl

/-- The fields of an object are taken one after the other. -/
theorem foldlM_fieldTokensBefore {fields : List (Option String × Json)} (h : ∀ f ∈ fields, Takes f.2)
    (hne : fields ≠ []) (read : List (Option String × Json)) (frames : List Frame) (rest : List Token) :
    (fieldTokensBefore (.closeObject :: rest) fields).foldlM step ⟨frames, .key read⟩ =
      rest.foldlM step ⟨frames, .next (.object (read.reverse ++ fields))⟩ := by
  induction fields generalizing read with
  | nil => exact absurd rfl hne
  | cons f others ih =>
    obtain ⟨key, v⟩ := f
    have hv : Takes v := h (key, v) List.mem_cons_self
    have hkey : step ⟨frames, .key read⟩ (.string key) = some ⟨.object read key :: frames, .colon⟩ := rfl
    cases others with
    | nil =>
      rw [fieldTokensBefore, List.foldlM_cons, hkey]
      show (tokensBefore _ v).foldlM step ⟨.object read key :: frames, .value⟩ = _
      rw [hv, List.foldlM_cons]
      show rest.foldlM step ⟨frames, .next (.object ((key, v) :: read).reverse)⟩ = _
      rw [List.reverse_cons]
    | cons g others =>
      rw [fieldTokensBefore, List.foldlM_cons, hkey]
      show (tokensBefore _ v).foldlM step ⟨.object read key :: frames, .value⟩ = _
      rw [hv, List.foldlM_cons]
      show (fieldTokensBefore _ (g :: others)).foldlM step ⟨frames, .key ((key, v) :: read)⟩ = _
      rw [ih (fun u hu => h u (List.mem_cons_of_mem (key, v) hu)) (List.cons_ne_nil g others),
        List.reverse_cons, List.append_assoc]
      rfl

/-- **Where a value is waited for, the tokens of a value are taken.** -/
theorem takes (j : Json) : Takes j := by
  intro frames rest
  induction j using Json.induct generalizing frames rest with
  | null => rw [tokensBefore, List.foldlM_cons, step_value .null nofun]; rfl
  | bool b => rw [tokensBefore, List.foldlM_cons, step_value (.bool b) nofun]; rfl
  | number n => rw [tokensBefore, List.foldlM_cons, step_value (.number n) nofun]; rfl
  | string s => rw [tokensBefore, List.foldlM_cons, step_value (.string s) nofun]; rfl
  | array items ih =>
    rw [tokensBefore, List.foldlM_cons, step_value .openArray nofun]
    show (itemTokensBefore (.closeArray :: rest) items).foldlM step ⟨.array [] :: frames, .value⟩ = _
    cases items with
    | nil => rfl
    | cons v others => exact foldlM_itemTokensBefore ih (List.cons_ne_nil v others) [] frames rest
  | object fields ih =>
    rw [tokensBefore, List.foldlM_cons, step_value .openObject nofun]
    show (fieldTokensBefore (.closeObject :: rest) fields).foldlM step ⟨frames, .key []⟩ = _
    cases fields with
    | nil => rfl
    | cons f others => exact foldlM_fieldTokensBefore ih (List.cons_ne_nil f others) [] frames rest

end Reader

/-- The tokens of a value spell it. -/
theorem ofTokens?_tokens (j : Json) : ofTokens? (tokens j) = some j := by
  rw [ofTokens?, tokens, Reader.State.start, Reader.takes]
  rfl

/-! ## 2. The layouts

  In both layouts the items of an array, and likewise the fields of an object, are BLOCKS with commas
  between neighbours.  What is true of the layout of a whole is shown of such lists of blocks, once for
  both layouts and both kinds of brackets.
-/

theorem itemTokensBefore_eq {l : List Json} (h : ∀ v ∈ l, ∀ rest, tokensBefore rest v = tokens v ++ rest)
    (rest : List Token) :
    itemTokensBefore rest l = [Token.comma].intercalate (l.map tokens) ++ rest := by
  induction l with
  | nil => rfl
  | cons v others ih =>
    have hv := h v List.mem_cons_self
    have ih := ih fun u hu => h u (List.mem_cons_of_mem v hu)
    cases others with
    | nil =>
      show tokensBefore rest v = [Token.comma].intercalate [tokens v] ++ rest
      rw [List.intercalate_singleton, hv]
    | cons w others =>
      show tokensBefore _ v = [Token.comma].intercalate (tokens v :: tokens w :: others.map tokens) ++ rest
      rw [hv, ih, List.intercalate_cons_cons, List.append_assoc, List.append_assoc]
      rfl

/-- The tokens of a field. -/
def fieldTokens (f : Option String × Json) : List Token := .string f.1 :: .colon :: tokens f.2

theorem fieldTokensBefore_eq {l : List (Option String × Json)}
    (h : ∀ f ∈ l, ∀ rest, tokensBefore rest f.2 = tokens f.2 ++ rest) (rest : List Token) :
    fieldTokensBefore rest l = [Token.comma].intercalate (l.map fieldTokens) ++ rest := by
  induction l with
  | nil => rfl
  | cons f others ih =>
    have hf := h f List.mem_cons_self
    have ih := ih fun u hu => h u (List.mem_cons_of_mem f hu)
    cases others with
    | nil =>
      show .string f.1 :: .colon :: tokensBefore rest f.2 = [Token.comma].intercalate [fieldTokens f] ++ rest
      rw [List.intercalate_singleton, hf]
      rfl
    | cons g others =>
      show .string f.1 :: .colon :: tokensBefore _ f.2 =
        [Token.comma].intercalate (fieldTokens f :: fieldTokens g :: others.map fieldTokens) ++ rest
      rw [hf, ih, List.intercalate_cons_cons, List.append_assoc, List.append_assoc]
      rfl

/-- Tokens before others are tokens put in front of them. -/
theorem tokensBefore_eq (j : Json) (rest : List Token) : tokensBefore rest j = tokens j ++ rest := by
  induction j using Json.induct generalizing rest with
  | null => rfl
  | bool b => rfl
  | number n => rfl
  | string s => rfl
  | array items ih =>
    rw [tokens, tokensBefore, tokensBefore, itemTokensBefore_eq ih, itemTokensBefore_eq ih,
      List.cons_append, List.append_assoc]
    rfl
  | object fields ih =>
    rw [tokens, tokensBefore, tokensBefore, fieldTokensBefore_eq ih, fieldTokensBefore_eq ih,
      List.cons_append, List.append_assoc]
    rfl

theorem tokens_array (items : List Json) :
    tokens (.array items) =
      .openArray :: ([Token.comma].intercalate (items.map tokens) ++ [.closeArray]) := by
  rw [tokens, tokensBefore, itemTokensBefore_eq fun v _ => tokensBefore_eq v]

theorem tokens_object (fields : List (Option String × Json)) :
    tokens (.object fields) =
      .openObject :: ([Token.comma].intercalate (fields.map fieldTokens) ++ [.closeObject]) := by
  rw [tokens, tokensBefore, fieldTokensBefore_eq fun f _ => tokensBefore_eq f.2]

/-- The pieces of an item on a line of its own. -/
def itemPieces (depth : Nat) (v : Json) : List Piece := newLine depth :: pretty depth v

/-- The pieces of a field on a line of its own. -/
def fieldPieces (depth : Nat) (f : Option String × Json) : List Piece :=
  newLine depth :: .token (.string f.1) :: .token .colon :: .blank [' '] :: pretty depth f.2

theorem prettyItems_eq (depth : Nat) (l : List Json) :
    prettyItems depth l = [Piece.token .comma].intercalate (l.map (itemPieces depth)) := by
  induction l with
  | nil => rfl
  | cons v others ih =>
    cases others with
    | nil => exact List.intercalate_singleton.symm
    | cons w others =>
      show _ = [Piece.token .comma].intercalate
        (itemPieces depth v :: itemPieces depth w :: others.map (itemPieces depth))
      rw [List.intercalate_cons_cons, prettyItems, ih, List.append_assoc]
      rfl

theorem prettyFields_eq (depth : Nat) (l : List (Option String × Json)) :
    prettyFields depth l = [Piece.token .comma].intercalate (l.map (fieldPieces depth)) := by
  induction l with
  | nil => rfl
  | cons f others ih =>
    cases others with
    | nil => exact List.intercalate_singleton.symm
    | cons g others =>
      show _ = [Piece.token .comma].intercalate
        (fieldPieces depth f :: fieldPieces depth g :: others.map (fieldPieces depth))
      rw [List.intercalate_cons_cons, prettyFields, ih, List.append_assoc]
      rfl

/-- The pretty layout of an array that holds something. -/
theorem pretty_array {items : List Json} (h : items ≠ []) (depth : Nat) :
    pretty depth (.array items) = .token .openArray ::
      ([Piece.token .comma].intercalate (items.map (itemPieces (depth + 1))) ++
        [newLine depth, .token .closeArray]) := by
  cases items with
  | nil => exact absurd rfl h
  | cons v others => rw [pretty, prettyItems_eq, List.cons_append]

/-- The pretty layout of an object that holds something. -/
theorem pretty_object {fields : List (Option String × Json)} (h : fields ≠ []) (depth : Nat) :
    pretty depth (.object fields) = .token .openObject ::
      ([Piece.token .comma].intercalate (fields.map (fieldPieces (depth + 1))) ++
        [newLine depth, .token .closeObject]) := by
  cases fields with
  | nil => exact absurd rfl h
  | cons f others => rw [pretty, prettyFields_eq, List.cons_append]

/-! ### The pretty layout has the tokens of the value -/

theorem filterMap_intercalate (blocks : List (List Piece)) :
    ([Piece.token .comma].intercalate blocks).filterMap Piece.token? =
      [Token.comma].intercalate (blocks.map fun b => b.filterMap Piece.token?) := by
  induction blocks with
  | nil => rfl
  | cons b rest ih =>
    cases rest with
    | nil =>
      show _ = [Token.comma].intercalate [b.filterMap Piece.token?]
      rw [List.intercalate_singleton, List.intercalate_singleton]
    | cons c rest =>
      rw [List.intercalate_cons_cons, List.filterMap_append, List.filterMap_append, ih]
      show _ = [Token.comma].intercalate (_ :: _ :: _)
      rw [List.intercalate_cons_cons]
      rfl

theorem filterMap_pretty (j : Json) (depth : Nat) : (pretty depth j).filterMap Piece.token? = tokens j := by
  induction j using Json.induct generalizing depth with
  | null => rfl
  | bool b => rfl
  | number n => rfl
  | string s => rfl
  | array items ih =>
    by_cases h : items = []
    · rw [h]
      rfl
    · have blocks : items.map ((fun b => b.filterMap Piece.token?) ∘ itemPieces (depth + 1)) =
          items.map tokens := List.map_congr_left fun v hv => ih v hv (depth + 1)
      rw [pretty_array h, tokens_array, ← blocks, ← List.map_map, ← filterMap_intercalate]
      show Token.openArray :: List.filterMap Piece.token? (_ ++ _) = _
      rw [List.filterMap_append]
      rfl
  | object fields ih =>
    by_cases h : fields = []
    · rw [h]
      rfl
    · have blocks : fields.map ((fun b => b.filterMap Piece.token?) ∘ fieldPieces (depth + 1)) =
          fields.map fieldTokens := List.map_congr_left fun f hf => by
        rw [fieldTokens, ← ih f hf (depth + 1)]
        rfl
      rw [pretty_object h, tokens_object, ← blocks, ← List.map_map, ← filterMap_intercalate]
      show Token.openObject :: List.filterMap Piece.token? (_ ++ _) = _
      rw [List.filterMap_append]
      rfl

/-! ### The blanks of the pretty layout are blanks -/

theorem mem_intercalate {p q : Piece} {blocks : List (List Piece)} (h : p ∈ [q].intercalate blocks) :
    p = q ∨ ∃ b ∈ blocks, p ∈ b := by
  induction blocks with
  | nil => exact absurd h List.not_mem_nil
  | cons b rest ih =>
    cases rest with
    | nil =>
      rw [List.intercalate_singleton] at h
      exact Or.inr ⟨b, List.mem_cons_self, h⟩
    | cons c rest =>
      rw [List.intercalate_cons_cons] at h
      rcases List.mem_append.1 h with h | h
      · rcases List.mem_append.1 h with h | h
        · exact Or.inr ⟨b, List.mem_cons_self, h⟩
        · exact Or.inl (List.mem_singleton.1 h)
      · rcases ih h with h | ⟨d, hd, h⟩
        · exact Or.inl h
        · exact Or.inr ⟨d, List.mem_cons_of_mem b hd, h⟩

theorem sound_newLine (depth : Nat) : (newLine depth).Sound := by
  refine ⟨List.cons_ne_nil _ _, fun c hc => ?_⟩
  rcases List.mem_cons.1 hc with rfl | hc
  · rfl
  · rw [List.eq_of_mem_replicate hc]
    rfl

/-- An array or an object in the pretty layout has sound pieces if its blocks have. -/
theorem sound_brackets {blocks : List (List Piece)} (h : ∀ b ∈ blocks, ∀ p ∈ b, p.Sound) (depth : Nat)
    (first last : Token) : ∀ p ∈ Piece.token first ::
      ([Piece.token .comma].intercalate blocks ++ [newLine depth, .token last]), p.Sound := by
  intro p hp
  rcases List.mem_cons.1 hp with rfl | hp
  · trivial
  rcases List.mem_append.1 hp with hp | hp
  · rcases mem_intercalate hp with rfl | ⟨b, hb, hp⟩
    · trivial
    · exact h b hb p hp
  · rcases List.mem_cons.1 hp with rfl | hp
    · exact sound_newLine depth
    · rw [List.mem_singleton.1 hp]
      trivial

theorem sound_pretty (j : Json) (depth : Nat) : ∀ p ∈ pretty depth j, p.Sound := by
  have single : ∀ t : Token, ∀ p ∈ [Piece.token t], p.Sound := by
    intro t p hp
    rw [List.mem_singleton.1 hp]
    trivial
  have empty : ∀ first last : Token, ∀ p ∈ [Piece.token first, .token last], p.Sound := by
    intro first last p hp
    rcases List.mem_cons.1 hp with rfl | hp
    · trivial
    · exact single last p hp
  induction j using Json.induct generalizing depth with
  | null => exact single .null
  | bool b => exact single (.bool b)
  | number n => exact single (.number n)
  | string s => exact single (.string s)
  | array items ih =>
    by_cases h : items = []
    · rw [h]
      exact empty .openArray .closeArray
    · rw [pretty_array h]
      refine sound_brackets (fun b hb p hp => ?_) depth .openArray .closeArray
      obtain ⟨v, hv, rfl⟩ := List.mem_map.1 hb
      rcases List.mem_cons.1 hp with rfl | hp
      · exact sound_newLine (depth + 1)
      · exact ih v hv (depth + 1) p hp
  | object fields ih =>
    by_cases h : fields = []
    · rw [h]
      exact empty .openObject .closeObject
    · rw [pretty_object h]
      refine sound_brackets (fun b hb p hp => ?_) depth .openObject .closeObject
      obtain ⟨f, hf, rfl⟩ := List.mem_map.1 hb
      rcases List.mem_cons.1 hp with rfl | hp
      · exact sound_newLine (depth + 1)
      rcases List.mem_cons.1 hp with rfl | hp
      · trivial
      rcases List.mem_cons.1 hp with rfl | hp
      · trivial
      rcases List.mem_cons.1 hp with rfl | hp
      · exact ⟨List.cons_ne_nil _ _, fun c hc => by rw [List.mem_singleton.1 hc]; rfl⟩
      · exact ih f hf (depth + 1) p hp

/-! ### In neither layout two words touch -/

/-- The pieces of the compact layout. -/
def compactPieces (ts : List Token) : List Piece := ts.map .token

theorem filterMap_compactPieces (ts : List Token) : (compactPieces ts).filterMap Piece.token? = ts := by
  induction ts with
  | nil => rfl
  | cons t ts ih =>
    show t :: (compactPieces ts).filterMap Piece.token? = _
    rw [ih]

theorem compactPieces_intercalate (blocks : List (List Token)) :
    compactPieces ([Token.comma].intercalate blocks) =
      [Piece.token .comma].intercalate (blocks.map compactPieces) := by
  induction blocks with
  | nil => rfl
  | cons b rest ih =>
    cases rest with
    | nil =>
      show _ = [Piece.token .comma].intercalate [compactPieces b]
      rw [List.intercalate_singleton, List.intercalate_singleton]
    | cons c rest =>
      show _ = [Piece.token .comma].intercalate (compactPieces b :: compactPieces c :: rest.map compactPieces)
      rw [List.intercalate_cons_cons, List.intercalate_cons_cons, compactPieces, List.map_append,
        List.map_append]
      exact congrArg _ ih

/-- What holds of pieces behind a word holds of them elsewhere. -/
theorem apart_false {ps : List Piece} (h : apart true ps = true) : apart false ps = true := by
  cases ps with
  | nil => rfl
  | cons p ps =>
    rw [apart, Bool.and_eq_true] at h
    rw [apart, h.2]
    rfl

/-- Pieces in which no words touch, neither among themselves nor with what stands behind them. -/
def Clear (ps : List Piece) : Prop := ∀ rest, apart true rest = true → apart false (ps ++ rest) = true

theorem Clear.intercalate {blocks : List (List Piece)} (h : ∀ b ∈ blocks, Clear b) :
    Clear ([Piece.token .comma].intercalate blocks) := by
  intro rest hrest
  induction blocks with
  | nil => exact apart_false hrest
  | cons b others ih =>
    have hb := h b List.mem_cons_self
    cases others with
    | nil =>
      rw [List.intercalate_singleton]
      exact hb rest hrest
    | cons c others =>
      rw [List.intercalate_cons_cons, List.append_assoc, List.append_assoc]
      exact hb _ (ih fun d hd => h d (List.mem_cons_of_mem b hd))

/-- An array or an object is clear if its blocks are. -/
theorem Clear.brackets {blocks : List (List Piece)} (h : ∀ b ∈ blocks, Clear b) {first : Token}
    (hfirst : first.isWord = false) {close : List Piece}
    (hclose : ∀ rest, apart true rest = true → apart true (close ++ rest) = true) :
    Clear (.token first :: ([Piece.token .comma].intercalate blocks ++ close)) := by
  intro rest hrest
  have inside := Clear.intercalate h (close ++ rest) (hclose rest hrest)
  rw [List.cons_append, List.append_assoc, apart, Bool.and_eq_true]
  refine ⟨rfl, ?_⟩
  rw [Piece.isWord, hfirst]
  exact inside

theorem clear_compact (j : Json) : Clear (compactPieces (tokens j)) := by
  induction j using Json.induct with
  | null => exact fun _ h => h
  | bool b => exact fun _ h => h
  | number n => exact fun _ h => h
  | string s =>
    intro rest h
    have h' := apart_false h
    exact h'
  | array items ih =>
    have blocks : ∀ b ∈ (items.map tokens).map compactPieces, Clear b := by
      rw [List.map_map]
      intro b hb
      obtain ⟨v, hv, rfl⟩ := List.mem_map.1 hb
      exact ih v hv
    rw [tokens_array, compactPieces, List.map_cons, List.map_append]
    show Clear (_ :: (compactPieces _ ++ [.token .closeArray]))
    rw [compactPieces_intercalate]
    exact Clear.brackets blocks rfl fun _ h => apart_false h
  | object fields ih =>
    have blocks : ∀ b ∈ (fields.map fieldTokens).map compactPieces, Clear b := by
      rw [List.map_map]
      intro b hb
      obtain ⟨f, hf, rfl⟩ := List.mem_map.1 hb
      exact ih f hf
    rw [tokens_object, compactPieces, List.map_cons, List.map_append]
    show Clear (_ :: (compactPieces _ ++ [.token .closeObject]))
    rw [compactPieces_intercalate]
    exact Clear.brackets blocks rfl fun _ h => apart_false h

theorem clear_pretty (j : Json) (depth : Nat) : Clear (pretty depth j) := by
  induction j using Json.induct generalizing depth with
  | null => exact fun _ h => h
  | bool b => exact fun _ h => h
  | number n => exact fun _ h => h
  | string s =>
    intro rest h
    have h' := apart_false h
    exact h'
  | array items ih =>
    by_cases h : items = []
    · rw [h]
      intro rest hrest
      have hrest' := apart_false hrest
      exact hrest'
    · have blocks : ∀ b ∈ items.map (itemPieces (depth + 1)), Clear b := by
        intro b hb
        obtain ⟨v, hv, rfl⟩ := List.mem_map.1 hb
        exact ih v hv (depth + 1)
      rw [pretty_array h]
      refine Clear.brackets blocks rfl fun rest h => ?_
      have h' := apart_false h
      exact h'
  | object fields ih =>
    by_cases h : fields = []
    · rw [h]
      intro rest hrest
      have hrest' := apart_false hrest
      exact hrest'
    · have blocks : ∀ b ∈ fields.map (fieldPieces (depth + 1)), Clear b := by
        intro b hb
        obtain ⟨f, hf, rfl⟩ := List.mem_map.1 hb
        exact ih f hf (depth + 1)
      rw [pretty_object h]
      refine Clear.brackets blocks rfl fun rest h => ?_
      have h' := apart_false h
      exact h'

/-! ## Texts -/

/-- **Reading the compact text of a value gives the value.** -/
theorem read?_compactText (j : Json) : read? j.compactText = some j := by
  have clear : apart false (compactPieces (tokens j)) = true := by
    have h := clear_compact j [] rfl
    rw [List.append_nil] at h
    exact h
  have sound : ∀ p ∈ compactPieces (tokens j), p.Sound := by
    intro p hp
    obtain ⟨t, -, rfl⟩ := List.mem_map.1 hp
    trivial
  have chars : (compactPieces (tokens j)).flatMap Piece.text = j.compactChars := List.flatMap_map ..
  rw [read?, toList_compactText, ofChars?, ← chars, tokens?_pieces clear sound, filterMap_compactPieces]
  exact ofTokens?_tokens j

/-- **Reading the pretty text of a value gives the value.** -/
theorem read?_prettyText (j : Json) : read? j.prettyText = some j := by
  have clear : apart false (pretty 0 j) = true := by
    have h := clear_pretty j 0 [] rfl
    rw [List.append_nil] at h
    exact h
  rw [read?, toList_prettyText, ofChars?, prettyChars, tokens?_pieces clear (sound_pretty j 0),
    filterMap_pretty]
  exact ofTokens?_tokens j

end LoopLowering.Json
