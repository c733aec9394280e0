/-
  Finite sets over an ordered type, kept as STRICTLY INCREASING lists.

  Two things of this library are sets whose printed order matters: the annotations of a tree node
  and the headers that a run asks for.  A strictly increasing list is the one list that represents
  a finite set, so such a set is written, hashed and compared without further normalisation:

    * `SortedSet.mem_insert`  — insertion adds one element and forgets nothing;
    * `SortedSet.ext`         — two sets with the same elements ARE the same set.

  Both rest on `compare` being a lawful total order (`Std.TransOrd`, `Std.LawfulEqOrd`).
-/

namespace LoopLowering

/-- A finite set, represented by the increasing list of its elements. -/
structure SortedSet (α : Type) [Ord α] where
  /-- The elements, each once, in increasing order. -/
  toList : List α
  /-- Each element is below all that follow it. -/
  increasing : toList.Pairwise (fun a b => compare a b = .lt)
  deriving DecidableEq

namespace SortedSet

variable {α : Type} [Ord α]

/-! ## Insertion into an increasing list -/

/-- `place a l` puts `a` in front of the first element of `l` that is above it, and leaves `l`
    alone if `a` is met on the way. -/
def place (a : α) : List α → List α
  | [] => [a]
  | b :: rest =>
    match compare a b with
    | .lt => a :: b :: rest
    | .eq => b :: rest
    | .gt => b :: place a rest

theorem mem_place [Std.LawfulEqOrd α] {a x : α} {l : List α} :
    x ∈ place a l ↔ x = a ∨ x ∈ l := by
  induction l with
  | nil => simp [place]
  | cons b rest ih =>
    unfold place
    split
    · simp
    · rename_i h
      obtain rfl := Std.LawfulEqOrd.eq_of_compare h
      simp
    · simp only [List.mem_cons, ih]
      constructor
      · rintro (h | h | h) <;> simp [h]
      · rintro (h | h | h) <;> simp [h]

theorem pairwise_place [Std.TransOrd α] [Std.LawfulEqOrd α] {a : α} {l : List α}
    (hl : l.Pairwise (fun a b => compare a b = .lt)) :
    (place a l).Pairwise (fun a b => compare a b = .lt) := by
  induction l with
  | nil => simp [place]
  | cons b rest ih =>
    obtain ⟨hb, hrest⟩ := List.pairwise_cons.1 hl
    unfold place
    split
    · rename_i h
      refine List.pairwise_cons.2 ⟨fun x hx => ?_, hl⟩
      rcases List.mem_cons.1 hx with rfl | hx
      · exact h
      · exact Std.TransCmp.lt_trans h (hb x hx)
    · exact hl
    · rename_i h
      refine List.pairwise_cons.2 ⟨fun x hx => ?_, ih hrest⟩
      rcases mem_place.1 hx with rfl | hx
      · exact Std.OrientedCmp.lt_of_gt h
      · exact hb x hx

/-! ## The set operations -/

/-- The set without elements. -/
def empty : SortedSet α := ⟨[], .nil⟩

instance : EmptyCollection (SortedSet α) := ⟨empty⟩

instance : Inhabited (SortedSet α) := ⟨empty⟩

instance : Membership α (SortedSet α) := ⟨fun s a => a ∈ s.toList⟩

instance [DecidableEq α] (a : α) (s : SortedSet α) : Decidable (a ∈ s) :=
  inferInstanceAs (Decidable (a ∈ s.toList))

/-- Whether the set has no element. -/
def isEmpty (s : SortedSet α) : Bool := s.toList.isEmpty

/-- Whether `a` is an element. -/
def contains [DecidableEq α] (s : SortedSet α) (a : α) : Bool := decide (a ∈ s)

variable [Std.TransOrd α] [Std.LawfulEqOrd α]

/-- The set with `a` added. -/
def insert (s : SortedSet α) (a : α) : SortedSet α :=
  ⟨place a s.toList, pairwise_place s.increasing⟩

/-- The set of the elements of a list, which may repeat them in any order. -/
def ofList (l : List α) : SortedSet α := l.foldl insert empty

@[simp] theorem mem_insert {s : SortedSet α} {a x : α} : x ∈ s.insert a ↔ x = a ∨ x ∈ s :=
  mem_place

omit [Std.TransOrd α] [Std.LawfulEqOrd α] in
@[simp] theorem not_mem_empty {x : α} : ¬ x ∈ (∅ : SortedSet α) := by
  intro h; cases h

theorem mem_foldl_insert {l : List α} {s : SortedSet α} {x : α} :
    x ∈ l.foldl insert s ↔ x ∈ s ∨ x ∈ l := by
  induction l generalizing s with
  | nil => simp
  | cons a rest ih =>
    simp only [List.foldl_cons, ih, mem_insert, List.mem_cons]
    constructor
    · rintro ((h | h) | h) <;> simp [h]
    · rintro (h | h | h) <;> simp [h]

@[simp] theorem mem_ofList {l : List α} {x : α} : x ∈ ofList l ↔ x ∈ l := by
  rw [ofList, mem_foldl_insert]
  constructor
  · rintro (h | h)
    · cases h
    · exact h
  · exact Or.inr

/-! ## One list per set -/

omit [Std.LawfulEqOrd α] in
/-- An increasing list is determined by its elements. -/
theorem eq_of_mem_iff {l m : List α}
    (hl : l.Pairwise (fun a b => compare a b = .lt))
    (hm : m.Pairwise (fun a b => compare a b = .lt))
    (h : ∀ x, x ∈ l ↔ x ∈ m) : l = m := by
  have irrefl : ∀ a : α, compare a a ≠ .lt := fun a => by
    rw [Std.ReflOrd.compare_self]; decide
  induction l generalizing m with
  | nil =>
    cases m with
    | nil => rfl
    | cons b m => exact absurd ((h b).2 (by simp)) (by simp)
  | cons a l ih =>
    cases m with
    | nil => exact absurd ((h a).1 (by simp)) (by simp)
    | cons b m =>
      obtain ⟨ha, hl'⟩ := List.pairwise_cons.1 hl
      obtain ⟨hb, hm'⟩ := List.pairwise_cons.1 hm
      -- the two heads are both least, hence equal
      have hab : a = b := by
        rcases List.mem_cons.1 ((h a).1 (by simp)) with e | e
        · exact e
        · rcases List.mem_cons.1 ((h b).2 (by simp)) with e' | e'
          · exact e'.symm
          · exact absurd (Std.TransCmp.lt_trans (ha b e') (hb a e)) (irrefl a)
      subst hab
      congr 1
      refine ih hl' hm' fun x => ?_
      constructor
      · intro hx
        rcases List.mem_cons.1 ((h x).1 (List.mem_cons_of_mem _ hx)) with rfl | hx'
        · exact absurd (ha _ hx) (irrefl _)
        · exact hx'
      · intro hx
        rcases List.mem_cons.1 ((h x).2 (List.mem_cons_of_mem _ hx)) with rfl | hx'
        · exact absurd (hb _ hx) (irrefl _)
        · exact hx'

omit [Std.LawfulEqOrd α] in
/-- Sets with the same elements are equal. -/
@[ext] theorem ext {s t : SortedSet α} (h : ∀ x, x ∈ s ↔ x ∈ t) : s = t := by
  cases s; cases t
  congr 1
  exact eq_of_mem_iff (by assumption) (by assumption) h

theorem ofList_toList (s : SortedSet α) : ofList s.toList = s :=
  ext fun _ => mem_ofList

end SortedSet

end LoopLowering
