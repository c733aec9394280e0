/-
  Reading a tree back from its text.

  1.  DEPTH.  `StandsAt n depth m` says that `m` stands in the tree `n`, `depth` levels below its root;
      `height` is the greatest depth that occurs (`height_le_iff`).

  2.  ROOM.  A written tree needs two brackets for each of its levels, one for the node and one for its
      list of children, and two more inside a node for the annotations with a payload.  So with an odd
      room the children decide: `2 * k + 1` brackets hold the trees with at most `k` levels, and no other
      (`ofJson?_json`).

  3.  WHATEVER a tree was read from, an array of arrays or an object with foreign fields, its height
      took that much room as well (`height_of_ofJson?`), so a tree that was read is not too high to be
      written and read again (`height_of_read?`).

  4.  TEXTS.  A text may open `Json.maxNesting` brackets, that is `2 * 63 + 1`: trees up to height 62 are
      read back from either of their texts, and trees above that are refused (`read?_text_iff`).
-/
import LoopLowering.Tree.Format
import LoopLowering.Proofs.Tree.Marking
import LoopLowering.Proofs.Json.Reading

namespace LoopLowering

/-! ## 1. Depth -/

namespace Node

/-- `StandsAt n depth m`: in the tree `n`, the node `m` stands `depth` levels below the root. -/
inductive StandsAt : Node → Nat → Node → Prop
  | root (n : Node) : StandsAt n 0 n
  | child {n c m : Node} {depth : Nat} (hc : c ∈ n.children) (h : StandsAt c depth m) :
      StandsAt n (depth + 1) m

mutual

/-- The greatest depth of a node in a tree. -/
def height : Node → Nat
  | ⟨_, _, children⟩ => heightAll children

/-- The number of levels of a list of trees. -/
def heightAll : List Node → Nat
  | [] => 0
  | n :: rest => max (height n + 1) (heightAll rest)

end

theorem heightAll_le_iff {l : List Node} {k : Nat} : heightAll l ≤ k ↔ ∀ c ∈ l, c.height + 1 ≤ k := by
  induction l with
  | nil => exact ⟨fun _ _ hc => absurd hc List.not_mem_nil, fun _ => Nat.zero_le k⟩
  | cons n rest ih => rw [heightAll, Nat.max_le, ih, List.forall_mem_cons]

theorem height_node (kind : Kind) (properties : PropertySet) (children : List Node) :
    height ⟨kind, properties, children⟩ = heightAll children := by
  rw [height]

/-- A tree is as high as its nodes stand deep. -/
theorem height_le_iff {n : Node} {k : Nat} : n.height ≤ k ↔ ∀ depth m, StandsAt n depth m → depth ≤ k := by
  induction n using induct generalizing k with
  | node kind properties children ih =>
    rw [height_node, heightAll_le_iff]
    constructor
    · intro h depth m hm
      cases hm with
      | root => exact Nat.zero_le k
      | child hc hm =>
        have hk := h _ hc
        have deep := (ih _ hc).1 (Nat.le_sub_of_add_le hk) _ _ hm
        omega
    · intro h c hc
      have hk : 1 ≤ k := h 1 c (.child hc (.root c))
      have hle : c.height ≤ k - 1 :=
        (ih c hc).2 fun depth m hm => Nat.le_sub_of_add_le (h (depth + 1) m (.child hc hm))
      omega

/-- Marking does not change the shape of a tree. -/
theorem height_mark (rule : Rule) (above : List Node) (n : Node) : (n.mark rule above).height = n.height := by
  induction n using induct generalizing above with
  | node kind properties children ih =>
    have same : ∀ k, heightAll (children.map (mark rule (⟨kind, properties, children⟩ :: above))) ≤ k ↔
        heightAll children ≤ k := by
      intro k
      rw [heightAll_le_iff, heightAll_le_iff, List.forall_mem_map]
      exact forall₂_congr fun c hc => by rw [ih c hc]
    rw [mark_node, height_node, height_node]
    exact Nat.le_antisymm ((same _).2 (Nat.le_refl _)) ((same _).1 (Nat.le_refl _))

end Node

/-! ## 2. Annotations and kinds -/

theorem Json.inRange_whole (n : UInt64) : (Json.Number.whole false n.toNat).inRange = true := by
  have lt : n.toNat < UInt64.size := n.toNat_lt_size
  -- a word is its own leading digits, none dropped, so the power of ten is never looked at
  have whole : ∀ fuel, Numeric.leadingWord fuel n.toNat 0 = (n.toNat, 0) := by
    intro fuel
    cases fuel with
    | zero => rfl
    | succ fuel => rw [Numeric.leadingWord, if_pos lt]
  rw [Json.Number.inRange, Numeric.fitsStepwise, whole]
  exact if_pos (Or.inr (Int.le_refl 0))

theorem Property.ofJson?_json {room : Nat} (h : 0 < room) (p : Property) : ofJson? room p.json = some p := by
  have hr : room ≠ 0 := Nat.ne_of_gt h
  cases p with
  | blocked level =>
    show (if room = 0 then none else _) = _
    rw [if_neg hr]
    show (Json.nat level.toNat).word32?.map blocked = _
    rw [Json.word32?_nat, Option.map_some]
  | _ => rfl

/-- Annotations are read as a set, in whatever order they come and however often. -/
theorem propertiesOfJson?_json {room : Nat} (h : 1 < room) (ps : List Property) :
    propertiesOfJson? room (.array (ps.map Property.json)) = some (SortedSet.ofList ps) := by
  have each : Property.ofJson? (room - 1) ∘ Property.json = some :=
    funext fun p => Property.ofJson?_json (Nat.sub_pos_of_lt h) p
  have all : (ps.map Property.json).mapM (Property.ofJson? (room - 1)) = some ps := by
    rw [List.mapM_map, each]
    exact (List.mapM_pure (m := Option)).trans (congrArg some (List.map_id _))
  rw [propertiesOfJson?, if_neg (by omega), all, Option.map_some]

theorem Kind.ofJson?_json {room : Nat} (h : 0 < room) (kind : Kind) : ofJson? room kind.json = some kind := by
  obtain ⟨room, rfl⟩ := Nat.exists_eq_succ_of_ne_zero (Nat.ne_of_gt h)
  cases kind with
  | iteration dim extent =>
    cases extent with
    | none => rfl
    | some extent =>
      have strict : (iteration dim (some extent)).json.isStrict (room + 1) = true := by
        show (true && true && (true && true &&
          (true && (Json.Number.whole false extent.toNat).inRange && true))) = true
        rw [Json.inRange_whole]
        rfl
      have read : extentOfJson? (.nat extent.toNat) = some (some extent) := by
        show (Json.nat extent.toNat).word64?.map some = _
        rw [Json.word64?_nat, Option.map_some]
      unfold ofJson?
      rw [if_pos strict]
      show (do return iteration dim (← extentOfJson? (.nat extent.toNat)) : Option Kind) = _
      rw [read]
      rfl
  | _ => rfl

/-- A kind is in brackets of its own. -/
theorem Kind.ofJson?_zero (j : Json) : ofJson? 0 j = none := by
  cases j with
  | array items => rfl
  | object fields => rfl
  | _ => exact ite_self none

theorem Kind.pos_of_ofJson? {room : Nat} {j : Json} {kind : Kind} (h : ofJson? room j = some kind) :
    0 < room := by
  rcases Nat.eq_zero_or_pos room with rfl | pos
  · rw [ofJson?_zero] at h
    cases h
  · exact pos

/-! ## 3. Reading what was written -/

namespace Node

theorem jsonAll_eq (l : List Node) : jsonAll l = l.map json := by
  induction l with
  | nil => rfl
  | cons n rest ih => rw [jsonAll, ih, List.map_cons]

/-- A node whose annotations are listed in some order, maybe more than once. -/
def listing (kind : Kind) (ps : List Property) (children : List Node) : Json :=
  .record (("kind", kind.json) ::
    (if ps.isEmpty then [] else [("properties", .array (ps.map Property.json))]) ++
    (if children.isEmpty then [] else [("children", .array (children.map json))]))

/-- A written node lists its annotations as its set does. -/
theorem json_node (kind : Kind) (properties : PropertySet) (children : List Node) :
    json ⟨kind, properties, children⟩ = listing kind properties.toList children := by
  rw [json, jsonAll_eq]
  rfl

/-- The children of a draft, from the field that holds them if there are any. -/
theorem draftOfFields?_children {room : Nat} (h : 0 < room) (kind : Kind) (properties : Option PropertySet)
    (children : List Node) :
    ((draftOfFields? room ⟨some kind, properties, none⟩
        ((if children.isEmpty then [] else [("children", .array (children.map json))]).map
          fun (key, v) => (some key, v))).bind Draft.node?) =
      (childrenOfJson? room (.array (children.map json))).map fun children =>
        ⟨kind, properties.getD ∅, children⟩ := by
  obtain ⟨room, rfl⟩ := Nat.exists_eq_succ_of_ne_zero (Nat.ne_of_gt h)
  cases children with
  | nil => rfl
  | cons c children =>
    show ((draftOfFields? _ _ [(some "children", .array ((c :: children).map json))]).bind Draft.node?) = _
    rw [draftOfFields?, if_neg (by decide), if_neg (by decide), if_pos rfl]
    cases childrenOfJson? (room + 1) (.array ((c :: children).map json)) <;> rfl

/-- With room for annotations, only the children of a listed node can be refused. -/
theorem ofJson?_listing {room : Nat} (h : 1 < room) (kind : Kind) (ps : List Property) (children : List Node) :
    ofJson? (room + 1) (listing kind ps children) =
      (childrenOfJson? room (.array (children.map json))).map fun children =>
        ⟨kind, SortedSet.ofList ps, children⟩ := by
  have pos : 0 < room := Nat.lt_of_succ_lt h
  rw [listing, Json.record, ofJson?, List.cons_append, List.map_cons, draftOfFields?, if_pos rfl,
    Kind.ofJson?_json pos]
  cases ps with
  | nil => exact draftOfFields?_children pos kind none children
  | cons p ps =>
    show ((draftOfFields? _ ⟨some kind, none, none⟩ ((some "properties", _) :: _)).bind Draft.node?) = _
    rw [draftOfFields?, if_neg (by decide), if_pos rfl, propertiesOfJson?_json h]
    exact draftOfFields?_children pos kind (some (SortedSet.ofList (p :: ps))) children

theorem allOfJson?_json {room k : Nat} {l : List Node}
    (h : ∀ c ∈ l, ofJson? room c.json = if c.height + 1 ≤ k then some c else none) :
    allOfJson? room (l.map json) = if heightAll l ≤ k then some l else none := by
  induction l with
  | nil =>
    rw [heightAll, if_pos (Nat.zero_le k)]
    rfl
  | cons n rest ih =>
    have ih := ih fun c hc => h c (List.mem_cons_of_mem n hc)
    rw [List.map_cons, allOfJson?, h n List.mem_cons_self, ih, heightAll]
    simp only [Nat.max_le]
    by_cases hn : n.height + 1 ≤ k
    · by_cases hr : heightAll rest ≤ k
      · rw [if_pos hn, if_pos hr, if_pos ⟨hn, hr⟩]
      · rw [if_pos hn, if_neg hr, if_neg fun both => hr both.2]
    · rw [if_neg hn, if_neg fun both : _ ∧ _ => hn both.1]

/-- **Room for `k` levels.**  The JSON form of a tree is read back if the tree has at most `k` levels,
    and is refused otherwise. -/
theorem ofJson?_json (n : Node) (k : Nat) :
    ofJson? (2 * k + 1) n.json = if n.height + 1 ≤ k then some n else none := by
  induction n using induct generalizing k with
  | node kind properties children ih =>
    cases k with
    | zero =>
      -- the one bracket is spent on the node, and none is left for its kind
      rw [if_neg (Nat.not_succ_le_zero _), json_node]
      show (draftOfFields? 0 {} ((some "kind", kind.json) :: _)).bind Draft.node? = none
      rw [draftOfFields?, if_pos rfl, Kind.ofJson?_zero]
      rfl
    | succ k =>
      have below := allOfJson?_json fun c hc => ih c hc k
      rw [show 2 * (k + 1) + 1 = (2 * k + 1 + 1) + 1 from rfl, json_node, ofJson?_listing (by omega),
        SortedSet.ofList_toList, childrenOfJson?, below, height_node]
      by_cases h : heightAll children ≤ k
      · rw [if_pos h, if_pos (Nat.succ_le_succ h), Option.map_some]
      · rw [if_neg h, if_neg fun hs => h (Nat.le_of_succ_le_succ hs), Option.map_none]

/-! ## 4. What any reading takes -/

/-- What a draft holds was read with `room` more brackets. -/
structure Draft.Fits (room : Nat) (d : Draft) : Prop where
  kind : d.kind.isSome = true → 0 < room
  children : ∀ l, d.children = some l → 2 * heightAll l + 1 ≤ room

theorem draftOfFields?_fits {room : Nat} {fields : List (Option String × Json)}
    (h : ∀ f ∈ fields, ∀ l, childrenOfJson? room f.2 = some l → 2 * heightAll l + 1 ≤ room) {d d' : Draft}
    (read : draftOfFields? room d fields = some d') (hd : d.Fits room) : d'.Fits room := by
  induction fields generalizing d with
  | nil =>
    rw [draftOfFields?] at read
    cases read
    exact hd
  | cons f rest ih =>
    obtain ⟨key, v⟩ := f
    have here := h (key, v) List.mem_cons_self
    have ih := @ih fun f hf => h f (List.mem_cons_of_mem _ hf)
    cases key with
    | none =>
      rw [draftOfFields?] at read
      cases read
    | some key =>
      rw [draftOfFields?] at read
      split at read
      · split at read
        · rename_i kind _ hk
          exact ih read ⟨fun _ => Kind.pos_of_ofJson? hk, hd.children⟩
        · cases read
      · split at read
        · split at read
          · exact ih read ⟨hd.kind, hd.children⟩
          · cases read
        · split at read
          · split at read
            · rename_i l _ hl
              refine ih read ⟨hd.kind, fun l' hl' => ?_⟩
              cases hl'
              exact here l hl
            · cases read
          · exact ih read hd

theorem allOfJson?_height {room : Nat} {items : List Json}
    (h : ∀ v ∈ items, ∀ n, ofJson? room v = some n → 2 * n.height + 2 ≤ room) {l : List Node}
    (read : allOfJson? room items = some l) : 2 * heightAll l ≤ room := by
  induction items generalizing l with
  | nil =>
    rw [allOfJson?] at read
    cases read
    exact Nat.zero_le room
  | cons v rest ih =>
    rw [allOfJson?] at read
    split at read
    · rename_i n others hn hothers
      cases read
      have hv := h v List.mem_cons_self n hn
      have hrest := ih (fun v hv => h v (List.mem_cons_of_mem _ hv)) hothers
      rw [heightAll]
      omega
    · cases read

theorem ofItems?_height {room : Nat} {items : List Json}
    (h : ∀ v ∈ items, ∀ l, childrenOfJson? room v = some l → 2 * heightAll l + 1 ≤ room) {n : Node}
    (read : ofItems? room items = some n) : 2 * n.height + 1 ≤ room := by
  unfold ofItems? at read
  split at read
  · simp only [Option.bind_eq_bind, Option.bind_eq_some_iff, Option.pure_def, Option.some.injEq] at read
    obtain ⟨kind, hk, rfl⟩ := read
    exact Kind.pos_of_ofJson? hk
  · simp only [Option.bind_eq_bind, Option.bind_eq_some_iff, Option.pure_def, Option.some.injEq] at read
    obtain ⟨kind, hk, properties, -, rfl⟩ := read
    exact Kind.pos_of_ofJson? hk
  · simp only [Option.bind_eq_bind, Option.bind_eq_some_iff, Option.pure_def, Option.some.injEq] at read
    obtain ⟨kind, -, properties, -, children, hc, rfl⟩ := read
    exact h _ (by simp) children hc
  · cases read

/-- What a value can be read as takes room for its levels, as a tree or as a list of trees. -/
theorem height_of_ofJson? (j : Json) :
    (∀ room n, ofJson? room j = some n → 2 * n.height + 2 ≤ room) ∧
      ∀ room l, childrenOfJson? room j = some l → 2 * heightAll l + 1 ≤ room := by
  induction j using Json.induct with
  | array items ih =>
    constructor
    · intro room n read
      cases room with
      | zero =>
        rw [ofJson?] at read
        cases read
      | succ room =>
        rw [ofJson?] at read
        exact Nat.succ_le_succ (ofItems?_height (fun v hv => (ih v hv).2 room) read)
    · intro room l read
      cases room with
      | zero =>
        rw [childrenOfJson?] at read
        cases read
      | succ room =>
        rw [childrenOfJson?] at read
        exact Nat.succ_le_succ (allOfJson?_height (fun v hv => (ih v hv).1 room) read)
  | object fields ih =>
    constructor
    · intro room n read
      cases room with
      | zero =>
        rw [ofJson?] at read
        cases read
      | succ room =>
        rw [ofJson?] at read
        obtain ⟨d, hd, hn⟩ := Option.bind_eq_some_iff.1 read
        have fits : d.Fits room :=
          draftOfFields?_fits (fun f hf => (ih f hf).2 room) hd ⟨nofun, nofun⟩
        obtain ⟨kind, hk, rfl⟩ := Option.map_eq_some_iff.1 hn
        have pos := fits.kind (by rw [hk]; rfl)
        rw [height_node]
        cases hl : d.children with
        | none => exact Nat.succ_le_succ pos
        | some l => exact Nat.succ_le_succ (fits.children l hl)
    · intro room l read
      simp [childrenOfJson?] at read
  | _ =>
    constructor
    · intro room n read
      simp [ofJson?] at read
    · intro room l read
      simp [childrenOfJson?] at read

/-! ## 5. Texts -/

/-- The height of the highest trees that have a readable text. -/
def maxHeight : Nat := 62

theorem ofJson?_maxNesting (n : Node) :
    ofJson? Json.maxNesting n.json = if n.height ≤ maxHeight then some n else none := by
  rw [show Json.maxNesting = 2 * (maxHeight + 1) + 1 from rfl, ofJson?_json]
  by_cases h : n.height ≤ maxHeight
  · rw [if_pos h, if_pos (Nat.succ_le_succ h)]
  · rw [if_neg h, if_neg fun hs => h (Nat.le_of_succ_le_succ hs)]

theorem read?_prettyText (n : Node) :
    read? n.prettyText = if n.height ≤ maxHeight then some n else none := by
  rw [read?, prettyText, Json.read?_prettyText]
  exact ofJson?_maxNesting n

theorem read?_compactText (n : Node) :
    read? n.compactText = if n.height ≤ maxHeight then some n else none := by
  rw [read?, compactText, Json.read?_compactText]
  exact ofJson?_maxNesting n

/-- A tree that was read is not too high to be read again. -/
theorem height_of_read? {s : String} {n : Node} (h : read? s = some n) : n.height ≤ maxHeight := by
  obtain ⟨j, -, hn⟩ := Option.bind_eq_some_iff.1 h
  have room := (height_of_ofJson? j).1 Json.maxNesting n hn
  rw [Json.maxNesting] at room
  rw [maxHeight]
  omega

/-- **Reading undoes writing, and the limit is exact.**  Either text of a tree gives the tree back if no
    node stands deeper than 62 levels, and is refused if some node does. -/
theorem read?_text_iff (n : Node) :
    (read? n.prettyText = some n ↔ ∀ depth m, StandsAt n depth m → depth ≤ 62) ∧
    (read? n.compactText = some n ↔ ∀ depth m, StandsAt n depth m → depth ≤ 62) ∧
    (read? n.prettyText = none ↔ ∃ depth m, StandsAt n depth m ∧ 62 < depth) ∧
    (read? n.compactText = none ↔ ∃ depth m, StandsAt n depth m ∧ 62 < depth) := by
  have deep : ¬ n.height ≤ 62 ↔ ∃ depth m, StandsAt n depth m ∧ 62 < depth := by
    rw [height_le_iff]
    simp only [Classical.not_forall, Nat.not_le, exists_prop]
  rw [read?_prettyText, read?_compactText, ← height_le_iff, ← deep, maxHeight]
  by_cases h : n.height ≤ 62
  · simp [h]
  · simp [h]

end Node

end LoopLowering
