/-
  What annotations a text lists, and what becomes of the order in which it does.

  1.  ORDER.  Annotations are written in the order of their names, and blocks by their levels (`Property.Before`).
      The keys that sets are sorted by say the same (`compare_eq_lt_iff`).

  2.  LISTS.  A JSON value that stands for a node lists its annotations in a field or at the second place of an
      array, and its children in another field or at the third (`slot`).  Following the children one comes to what is
      listed for the node at an address (`listed`).

  3.  READING.  A slot that is there is read and none other is (`ofJson?_slots`), so each node of a tree that
      was read has the annotations that are listed for it, whatever their order and number
      (`mem_properties_of_ofJson?`), and no order and number is refused (`read?_listing`).

  4.  WRITING.  A written tree lists for each node its annotations as its set does (`listed_json`).
-/
import LoopLowering.Proofs.Tree.Address
import LoopLowering.Proofs.Tree.Text

namespace LoopLowering

/-! ## 1. Order -/

namespace Property

/-- The written names, in the order in which annotations are written. -/
def namesInOrder : List String :=
  ["sequential", "parallel", "parallel-nested", "vectorized", "blocked", "distributed", "flush-denormals"]

/-- The order in which annotations are written: that of their names, and blocks by level. -/
inductive Before : Property → Property → Prop
  | name {p q : Property} (h : namesInOrder.idxOf p.name < namesInOrder.idxOf q.name) : Before p q
  | level {k l : UInt32} (h : k < l) : Before (.blocked k) (.blocked l)

/-- The level of a block; nothing else has one. -/
def level : Property → Nat
  | blocked level => level.toNat
  | _ => 0

theorem key_eq (p : Property) : p.key = namesInOrder.idxOf p.name * UInt32.size + p.level := by
  cases p <;> rfl

theorem level_lt (p : Property) : p.level < UInt32.size := by
  cases p with
  | blocked level => exact level.toNat_lt
  | _ => exact Nat.succ_pos _

theorem exists_blocked_of_level {p : Property} (h : 0 < p.level) : ∃ l, p = .blocked l := by
  cases p with
  | blocked level => exact ⟨level, rfl⟩
  | _ => exact absurd h (Nat.lt_irrefl 0)

theorem exists_blocked_of_name {p : Property}
    (h : namesInOrder.idxOf p.name = namesInOrder.idxOf "blocked") : ∃ l, p = .blocked l := by
  cases p with
  | blocked level => exact ⟨level, rfl⟩
  | _ => exact absurd h (by decide)

/-- **Sets of annotations are sorted in the order of writing.** -/
theorem compare_eq_lt_iff {p q : Property} : compare p q = .lt ↔ Before p q := by
  have keys : compare p q = .lt ↔ p.key < q.key := Nat.compare_eq_lt
  have hp := p.level_lt
  have hq := q.level_lt
  rw [keys, key_eq, key_eq]
  simp only [UInt32.size] at hp hq ⊢
  constructor
  · intro less
    by_cases names : namesInOrder.idxOf p.name = namesInOrder.idxOf q.name
    · -- Only blocks differ in more than their names.
      have levels : p.level < q.level := by omega
      obtain ⟨l, rfl⟩ := exists_blocked_of_level (Nat.zero_lt_of_lt levels)
      obtain ⟨k, rfl⟩ := exists_blocked_of_name names
      exact .level levels
    · exact .name (by omega)
  · rintro (less | less)
    · omega
    · exact Nat.add_lt_add_left less _

end Property

/-! ## 2. Lists -/

/-- The JSON value is a written form of the annotation. -/
def Property.WrittenAs (p : Property) (v : Json) : Prop := ∃ room, ofJson? room v = some p

namespace Node

/-- What stands in a field of an object or at a place of an array. -/
def slot (key : String) (place : Nat) : Json → Option Json
  | .object fields => (fields.find? fun f => f.1 = some key).map Prod.snd
  | .array items => items[place]?
  | _ => none

/-- The items of an array that may be missing. -/
def itemsOf : Option Json → List Json
  | some (.array items) => items
  | _ => []

/-- What a JSON value lists as annotations of the node at an address. -/
def listed (j : Json) : List Nat → List Json
  | [] => itemsOf (slot "properties" 1 j)
  | i :: path =>
    match (itemsOf (slot "children" 2 j))[i]? with
    | some c => listed c path
    | none => []

end Node

/-! ## 3. Reading -/

theorem map_of_mapM {α β : Type} {f : α → Option β} {l : List α} {l' : List β} (h : l.mapM f = some l') :
    l.map f = l'.map some := by
  induction l generalizing l' with
  | nil =>
    obtain rfl : [] = l' := Option.some.inj h
    rfl
  | cons a l ih =>
    rw [List.mapM_cons] at h
    obtain ⟨b, hb, h⟩ := Option.bind_eq_some_iff.1 h
    obtain ⟨bs, hbs, h⟩ := Option.bind_eq_some_iff.1 h
    obtain rfl : b :: bs = l' := Option.some.inj h
    rw [List.map_cons, List.map_cons, hb, ih hbs]

/-- Brackets decide whether an annotation is read, not which. -/
theorem Property.ofJson?_one {room : Nat} {v : Json} {p : Property} (h : ofJson? room v = some p) :
    ofJson? 1 v = some p := by
  unfold ofJson? at h
  split at h
  · exact h
  · split at h
    · cases h
    · exact h
  · cases h

theorem Property.WrittenAs.unique {p q : Property} {v : Json} (hp : p.WrittenAs v) (hq : q.WrittenAs v) : p = q := by
  obtain ⟨room, hp⟩ := hp
  obtain ⟨room', hq⟩ := hq
  exact Option.some.inj ((ofJson?_one hp).symm.trans (ofJson?_one hq))

namespace Node

/-- A set that was read has the annotations that were listed. -/
theorem mem_of_propertiesOfJson? {room : Nat} {v : Json} {s : PropertySet}
    (read : propertiesOfJson? room v = some s) {p : Property} :
    p ∈ s ↔ ∃ w ∈ itemsOf (some v), p.WrittenAs w := by
  unfold propertiesOfJson? at read
  split at read
  · rename_i items
    split at read
    · cases read
    · obtain ⟨ps, each, rfl⟩ := Option.map_eq_some_iff.1 read
      have each := map_of_mapM each
      rw [SortedSet.mem_ofList]
      constructor
      · intro hp
        obtain ⟨w, hw, written⟩ := List.mem_map.1 (each ▸ List.mem_map_of_mem hp)
        exact ⟨w, hw, _, written⟩
      · rintro ⟨w, hw, written⟩
        obtain ⟨q, hq, same⟩ := List.mem_map.1 (each ▸ List.mem_map_of_mem hw)
        rw [written.unique ⟨_, same.symm⟩]
        exact hq
  · cases read

theorem allOfJson?_eq (room : Nat) (items : List Json) : allOfJson? room items = items.mapM (ofJson? room) := by
  induction items with
  | nil => rfl
  | cons v rest ih =>
    rw [allOfJson?, ih, List.mapM_cons]
    cases ofJson? room v with
    | none => rfl
    | some n => cases rest.mapM (ofJson? room) <;> rfl

/-- Children that were read were read from the items of an array. -/
theorem getElem?_of_childrenOfJson? {room : Nat} {v : Json} {l : List Node}
    (read : childrenOfJson? room v = some l) {i : Nat} {c : Node} (hc : l[i]? = some c) :
    ∃ room w, (itemsOf (some v))[i]? = some w ∧ ofJson? room w = some c := by
  unfold childrenOfJson? at read
  split at read
  · rename_i items
    split at read
    · cases read
    · rename_i room
      rw [allOfJson?_eq] at read
      have each := congrArg (·[i]?) (map_of_mapM read)
      rw [List.getElem?_map, List.getElem?_map, hc] at each
      obtain ⟨w, hw, same⟩ := Option.map_eq_some_iff.1 each
      exact ⟨room, w, hw, same⟩
  · cases read

/-- What a slot adds to what was there: nothing if it is missing, and otherwise what is read from it, where
    nothing may have been there. -/
def Filled {α : Type} (reads : Json → Option α) (old new : Option α) : Option Json → Prop
  | none => new = old
  | some v => old = none ∧ ∃ a, reads v = some a ∧ new = some a

theorem Filled.first {α : Type} {reads : Json → Option α} {old new : Option α} {v : Json} {a : α}
    {rest : Option Json} (empty : old = none) (read : reads v = some a) (later : Filled reads (some a) new rest) :
    Filled reads old new (some v) := by
  cases rest with
  | none => exact ⟨empty, a, read, later⟩
  | some w => exact nomatch later.1

theorem slot_cons (key : String) (place : Nat) (k : String) (v : Json) (rest : List (Option String × Json)) :
    slot key place (.object ((some k, v) :: rest)) = if k = key then some v else slot key place (.object rest) := by
  rw [slot, List.find?_cons]
  by_cases same : k = key
  · simp [same]
  · simp [same, slot]

/-- Each slot of an object is filled from its one field, or left as it was. -/
theorem draftOfFields?_filled {room : Nat} {fields : List (Option String × Json)} {d d' : Draft}
    (read : draftOfFields? room d fields = some d') :
    Filled (propertiesOfJson? room) d.properties d'.properties (slot "properties" 1 (.object fields)) ∧
      Filled (childrenOfJson? room) d.children d'.children (slot "children" 2 (.object fields)) := by
  induction fields generalizing d with
  | nil =>
    rw [draftOfFields?] at read
    cases read
    exact ⟨rfl, rfl⟩
  | cons f rest ih =>
    obtain ⟨key, v⟩ := f
    cases key with
    | none =>
      rw [draftOfFields?] at read
      cases read
    | some key =>
      rw [draftOfFields?] at read
      rw [slot_cons, slot_cons]
      -- The field is the kind, the annotations, the children or a foreign one.
      split at read
      · subst key
        rw [if_neg (by decide), if_neg (by decide)]
        split at read
        · have later := ih read
          exact later
        · cases read
      · split at read
        · subst key
          rw [if_pos rfl, if_neg (by decide)]
          split at read
          · rename_i ps empty hps
            exact ⟨(ih read).1.first empty hps, (ih read).2⟩
          · cases read
        · rename_i other
          rw [if_neg other]
          split at read
          · subst key
            rw [if_pos rfl]
            split at read
            · rename_i l empty hl
              exact ⟨(ih read).1, (ih read).2.first empty hl⟩
            · cases read
          · rename_i other
            rw [if_neg other]
            exact ih read

/-- The value of a slot: the given one if it is missing, and otherwise what is read from it. -/
def Slotted {α : Type} (reads : Json → Option α) (missing a : α) : Option Json → Prop
  | none => a = missing
  | some v => reads v = some a

theorem Filled.slotted {α : Type} {reads : Json → Option α} {new : Option α} {o : Option Json}
    (h : Filled reads none new o) (missing : α) : Slotted reads missing (new.getD missing) o := by
  cases o with
  | none =>
    obtain rfl : new = none := h
    rfl
  | some v =>
    obtain ⟨-, a, read, rfl⟩ := h
    exact read

/-- **What was read.**  The annotations and the children of a node that was read are those of their slots, and
    there are none if these are missing. -/
theorem ofJson?_slots {room : Nat} {j : Json} {n : Node} (read : ofJson? room j = some n) :
    ∃ room, Slotted (propertiesOfJson? room) ∅ n.properties (slot "properties" 1 j) ∧
      Slotted (childrenOfJson? room) [] n.children (slot "children" 2 j) := by
  unfold ofJson? at read
  split at read
  · split at read
    · cases read
    · rename_i room
      obtain ⟨d, hd, hn⟩ := Option.bind_eq_some_iff.1 read
      obtain ⟨kind, -, rfl⟩ := Option.map_eq_some_iff.1 hn
      obtain ⟨properties, children⟩ := draftOfFields?_filled hd
      exact ⟨room, properties.slotted ∅, children.slotted []⟩
  · split at read
    · cases read
    · rename_i room
      unfold ofItems? at read
      split at read
      · simp only [Option.bind_eq_bind, Option.bind_eq_some_iff, Option.pure_def, Option.some.injEq] at read
        obtain ⟨kind, -, rfl⟩ := read
        exact ⟨room, rfl, rfl⟩
      · simp only [Option.bind_eq_bind, Option.bind_eq_some_iff, Option.pure_def, Option.some.injEq] at read
        obtain ⟨kind, -, properties, hp, rfl⟩ := read
        exact ⟨room, hp, rfl⟩
      · simp only [Option.bind_eq_bind, Option.bind_eq_some_iff, Option.pure_def, Option.some.injEq] at read
        obtain ⟨kind, -, properties, hp, children, hc, rfl⟩ := read
        exact ⟨room, hp, hc⟩
      · cases read
  · cases read

/-- **Each node has the annotations that are listed for it**, whatever their order and however often. -/
theorem mem_properties_of_ofJson? {room : Nat} {j : Json} {n : Node} (read : ofJson? room j = some n)
    {path : List Nat} {m : Node} (here : n.at? path = some m) {p : Property} :
    p ∈ m.properties ↔ ∃ v ∈ listed j path, p.WrittenAs v := by
  induction path generalizing room j n with
  | nil =>
    obtain ⟨room, properties, -⟩ := ofJson?_slots read
    obtain rfl : n = m := Option.some.inj here
    rw [listed]
    cases hslot : slot "properties" 1 j with
    | none =>
      rw [hslot] at properties
      rw [show n.properties = ∅ from properties]
      simp [itemsOf]
    | some v =>
      rw [hslot] at properties
      exact mem_of_propertiesOfJson? properties
  | cons i path ih =>
    obtain ⟨room, -, children⟩ := ofJson?_slots read
    rw [at?_cons] at here
    obtain ⟨c, hc, below⟩ := Option.bind_eq_some_iff.1 here
    cases hslot : slot "children" 2 j with
    | none =>
      rw [hslot] at children
      rw [show n.children = [] from children] at hc
      cases hc
    | some v =>
      rw [hslot] at children
      obtain ⟨room, w, hw, child⟩ := getElem?_of_childrenOfJson? children hc
      rw [listed, hslot, hw]
      exact ih child below

/-- **No order is refused**, and no repetition. -/
theorem read?_listing (kind : Kind) (ps : List Property) (children : List Node) :
    let node : Node := ⟨kind, SortedSet.ofList ps, children⟩
    let answer := if node.height ≤ maxHeight then some node else none
    read? (listing kind ps children).compactText = answer ∧ read? (listing kind ps children).prettyText = answer := by
  intro node answer
  have each := allOfJson?_json fun c (_ : c ∈ children) => ofJson?_json c maxHeight
  have reads : ofJson? Json.maxNesting (listing kind ps children) = answer := by
    rw [show Json.maxNesting = 2 * maxHeight + 1 + 1 + 1 from rfl, ofJson?_listing (by omega), childrenOfJson?, each]
    show _ = if height ⟨kind, _, children⟩ ≤ maxHeight then _ else _
    rw [height_node]
    by_cases low : heightAll children ≤ maxHeight
    · rw [if_pos low, if_pos low, Option.map_some]
    · rw [if_neg low, if_neg low, Option.map_none]
  rw [read?, read?, Json.read?_compactText, Json.read?_prettyText]
  exact ⟨reads, reads⟩

/-! ## 4. Writing -/

theorem itemsOf_slot_properties (kind : Kind) (ps : List Property) (children : List Node) :
    itemsOf (slot "properties" 1 (listing kind ps children)) = ps.map Property.json := by
  rw [listing, Json.record, List.cons_append, List.map_cons, slot_cons, if_neg (by decide)]
  cases ps with
  | nil => cases children <;> rfl
  | cons p ps => rfl

theorem itemsOf_slot_children (kind : Kind) (ps : List Property) (children : List Node) :
    itemsOf (slot "children" 2 (listing kind ps children)) = children.map json := by
  cases ps <;> cases children <;> rfl

/-- **A written tree lists each set in order.** -/
theorem listed_json {n : Node} {path : List Nat} {m : Node} (here : n.at? path = some m) :
    listed n.json path = m.properties.toList.map Property.json := by
  induction path generalizing n with
  | nil =>
    obtain rfl : n = m := Option.some.inj here
    cases n with
    | mk kind properties children =>
      rw [json_node, listed, itemsOf_slot_properties]
  | cons i path ih =>
    cases n with
    | mk kind properties children =>
      rw [at?_cons] at here
      obtain ⟨c, hc, below⟩ := Option.bind_eq_some_iff.1 here
      have item : (children.map json)[i]? = some c.json := by
        rw [List.getElem?_map, hc]
        rfl
      rw [json_node, listed, itemsOf_slot_children, item]
      exact ih below

end Node

end LoopLowering
