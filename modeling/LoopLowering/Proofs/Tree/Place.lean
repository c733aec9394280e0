/-
  Places in a tree.

  A node is told from its equals by its PLACE: the numbers of the children on the way down from the root.
  On that way stand the nodes ABOVE it, and the two together, nearest first, are a path of the tree.  All places
  in order are a list, in which a place is counted once (`placed`, `mem_placed`).

  Marking moves nothing: what stands at a place of the marked tree is what stood there, marked by the rule,
  and so are the nodes above it (`place?_mark`).
-/
import LoopLowering.Proofs.Tree.Marking

namespace LoopLowering.Node

/-! ## Going to a place -/

/-- The nodes above a place, the nearest first, and the node there.  The first argument holds the nodes
    above the tree itself. -/
def place? : List Node → Node → List Nat → Option (List Node × Node)
  | above, n, [] => some (above, n)
  | above, n, i :: path => n.children[i]?.bind fun c => place? (n :: above) c path

/-- What stands at a place, or above it in the tree, is a node of the tree. -/
theorem mem_preorder_of_place? {path : List Nat} :
    ∀ {above : List Node} {root : Node} {a : List Node} {n : Node},
      place? above root path = some (a, n) →
      n ∈ root.preorder ∧ ∀ m ∈ a, m ∈ root.preorder ∨ m ∈ above := by
  induction path with
  | nil =>
    intro above root a n h
    obtain ⟨rfl, rfl⟩ := Prod.mk.inj (Option.some.inj h)
    refine ⟨?_, fun m hm => Or.inr hm⟩
    cases root
    exact List.mem_cons_self
  | cons i path ih =>
    intro above root a n h
    obtain ⟨c, hc, h⟩ := Option.bind_eq_some_iff.1 h
    obtain ⟨hn, ha⟩ := ih h
    have inside : ∀ m ∈ c.preorder, m ∈ root.preorder := by
      intro m hm
      cases root with
      | mk kind properties children =>
        rw [preorder, preorderAll_eq]
        exact List.mem_cons_of_mem _ (List.mem_flatMap.2 ⟨c, List.mem_of_getElem? hc, hm⟩)
    refine ⟨inside n hn, fun m hm => ?_⟩
    rcases ha m hm with hm | hm
    · exact Or.inl (inside m hm)
    · rcases List.mem_cons.1 hm with rfl | hm
      · refine Or.inl ?_
        cases m
        exact List.mem_cons_self
      · exact Or.inr hm

/-! ## All places -/

mutual

/-- The places of a tree in preorder, each as the nodes above it, the nearest first, and the node there.  The
    first argument holds the nodes above the tree itself. -/
def placed (above : List Node) : Node → List (List Node × Node)
  | ⟨kind, properties, children⟩ =>
    (above, ⟨kind, properties, children⟩) :: placedAll (⟨kind, properties, children⟩ :: above) children

/-- The places of a list of trees. -/
def placedAll (above : List Node) : List Node → List (List Node × Node)
  | [] => []
  | n :: rest => placed above n ++ placedAll above rest

end

theorem placedAll_eq (above l : List Node) : placedAll above l = l.flatMap (placed above) := by
  induction l with
  | nil => rfl
  | cons n rest ih => rw [placedAll, ih, List.flatMap_cons]

/-- A place is listed exactly if one can go there. -/
theorem mem_placed {above : List Node} {root : Node} {a : List Node} {n : Node} :
    (a, n) ∈ placed above root ↔ ∃ path, place? above root path = some (a, n) := by
  induction root using induct generalizing above with
  | node kind properties children ih =>
    rw [placed, placedAll_eq, List.mem_cons, List.mem_flatMap]
    constructor
    · rintro (here | ⟨c, hc, there⟩)
      · exact ⟨[], by rw [place?, here]⟩
      · obtain ⟨path, hpath⟩ := (ih c hc).1 there
        obtain ⟨i, hi⟩ := List.mem_iff_getElem?.1 hc
        exact ⟨i :: path, by rw [place?, hi, Option.bind_some, hpath]⟩
    · rintro ⟨path, hpath⟩
      cases path with
      | nil => exact Or.inl (Option.some.inj hpath).symm
      | cons i path =>
        obtain ⟨c, hc, hpath⟩ := Option.bind_eq_some_iff.1 hpath
        have inside : c ∈ children := List.mem_of_getElem? hc
        exact Or.inr ⟨c, inside, (ih c inside).2 ⟨path, hpath⟩⟩

/-- What stands above a tree stands above each of its places. -/
theorem mem_of_mem_placed {above : List Node} {root : Node} {place : List Node × Node}
    (here : place ∈ placed above root) {a : Node} (ha : a ∈ above) : a ∈ place.1 := by
  induction root using induct generalizing above with
  | node kind properties children ih =>
    rw [placed, placedAll_eq, List.mem_cons, List.mem_flatMap] at here
    rcases here with rfl | ⟨c, hc, there⟩
    · exact ha
    · exact ih c hc there (List.mem_cons_of_mem _ ha)

/-- What stands at a place is a node of the tree. -/
theorem mem_preorder_of_mem_placed {above : List Node} {root : Node} {place : List Node × Node}
    (here : place ∈ placed above root) : place.2 ∈ root.preorder := by
  obtain ⟨path, leads⟩ := mem_placed.1 here
  exact (mem_preorder_of_place? leads).1

/-! ## Marked places -/

/-- Nodes that stand above each other, the nearest first, each marked by the rule. -/
def markPath (rule : Rule) : List Node → List Node
  | [] => []
  | a :: above => mark rule above a :: markPath rule above

/-- **Marking moves nothing.** -/
theorem place?_mark (rule : Rule) (path : List Nat) (above : List Node) (root : Node) :
    place? (markPath rule above) (mark rule above root) path =
      (place? above root path).map fun (a, n) => (markPath rule a, mark rule a n) := by
  induction path generalizing above root with
  | nil => rfl
  | cons i path ih =>
    cases root with
    | mk kind properties children =>
      rw [place?, place?, mark_node, List.getElem?_map]
      cases children[i]? with
      | none => rfl
      | some c =>
        -- The marked root is the nearest of the marked nodes above the child.
        have here := ih (⟨kind, properties, children⟩ :: above) c
        rw [markPath, mark_node] at here
        exact here

/-- The nodes of a marked tree are those of its places, marked. -/
theorem preorder_mark (rule : Rule) (above : List Node) (root : Node) :
    (mark rule above root).preorder = (placed above root).map fun place => mark rule place.1 place.2 := by
  induction root using induct generalizing above with
  | node kind properties children ih =>
    have below := List.map_congr_left fun c hc => ih c hc (⟨kind, properties, children⟩ :: above)
    rw [placed, placedAll_eq, List.map_cons, List.map_flatMap, mark_node, preorder, preorderAll_eq,
      List.flatMap_map, List.flatMap_def, List.flatMap_def, below]

/-- Marking changes nothing if the rule is silent at each place. -/
theorem mark_eq_self_of_silent {rule : Rule} {above : List Node} {root : Node}
    (silent : ∀ place ∈ placed above root, rule place.1 place.2 = []) : mark rule above root = root := by
  induction root using induct generalizing above with
  | node kind properties children ih =>
    have here := silent (above, ⟨kind, properties, children⟩) (by rw [placed]; exact List.mem_cons_self)
    have below : children.map (mark rule (⟨kind, properties, children⟩ :: above)) = children.map id := by
      refine List.map_congr_left fun c hc => ih c hc fun place inside => silent place ?_
      rw [placed, placedAll_eq]
      exact List.mem_cons_of_mem _ (List.mem_flatMap.2 ⟨c, hc, inside⟩)
    rw [mark_node, here, below, List.map_id, List.foldl_nil]

/-- What stands at a place of a marked tree stood there before and was marked. -/
theorem of_place?_mark {rule : Rule} {path : List Nat} {root : Node} {a : List Node} {n : Node}
    (h : place? [] (mark rule [] root) path = some (a, n)) :
    ∃ above m, place? [] root path = some (above, m) ∧ a = markPath rule above ∧ n = mark rule above m := by
  have moved := place?_mark rule path [] root
  rw [markPath, h] at moved
  obtain ⟨⟨above, m⟩, hplace, hmark⟩ := Option.map_eq_some_iff.1 moved.symm
  obtain ⟨ha, hn⟩ := Prod.mk.inj hmark
  exact ⟨above, m, hplace, ha.symm, hn.symm⟩

theorem kind_mark (rule : Rule) (above : List Node) (n : Node) : (mark rule above n).kind = n.kind := by
  cases n
  rw [mark_node]

theorem mem_mark {rule : Rule} {above : List Node} {n : Node} {p : Property} :
    p ∈ (mark rule above n).properties ↔ p ∈ n.properties ∨ p ∈ rule above n := by
  cases n
  rw [mark_node, SortedSet.mem_foldl_insert]

theorem isIteration_mark (rule : Rule) (above : List Node) (n : Node) :
    (mark rule above n).isIteration = n.isIteration :=
  congrArg Kind.isIteration (kind_mark rule above n)

/-- Marking makes no loops on a path. -/
theorem any_markPath (rule : Rule) (above : List Node) :
    (markPath rule above).any isIteration = above.any isIteration := by
  induction above with
  | nil => rfl
  | cons a above ih => rw [markPath, List.any_cons, List.any_cons, ih, isIteration_mark]

/-- The nodes of a marked path that carry an annotation which the nearest node did not have before. -/
theorem countP_markPath_cons {rule : Rule} {p : Property} {a : Node} (absent : p ∉ a.properties)
    (above : List Node) :
    (markPath rule (a :: above)).countP (fun n => n.hasProperty p) =
      (markPath rule above).countP (fun n => n.hasProperty p) + if p ∈ rule above a then 1 else 0 := by
  have gains : (mark rule above a).hasProperty p = true ↔ p ∈ rule above a := by
    rw [hasProperty_iff, mem_mark]
    exact or_iff_right absent
  rw [markPath, List.countP_cons]
  simp only [gains]

section Alone

/-! Nodes that get an annotation may have a mark in common, such that none of them has another node with
the mark above.  Then at most one node of a path gets the annotation. -/

variable {rule : Rule} {p : Property} {marked : Node → Bool}
  (alone : ∀ above n, p ∈ rule above n → marked n = true ∧ above.any marked = false)
include alone

theorem countP_markPath_eq_zero {path : List Node} (fresh : ∀ n ∈ path, p ∉ n.properties)
    (unmarked : path.any marked = false) : (markPath rule path).countP (fun n => n.hasProperty p) = 0 := by
  induction path with
  | nil => rfl
  | cons a above ih =>
    rw [List.any_cons, Bool.or_eq_false_iff] at unmarked
    have silent : p ∉ rule above a := fun said =>
      Bool.false_ne_true (unmarked.1.symm.trans (alone above a said).1)
    rw [countP_markPath_cons (fresh a List.mem_cons_self), if_neg silent]
    exact ih (fun n hn => fresh n (List.mem_cons_of_mem a hn)) unmarked.2

theorem countP_markPath_le_one {path : List Node} (fresh : ∀ n ∈ path, p ∉ n.properties) :
    (markPath rule path).countP (fun n => n.hasProperty p) ≤ 1 := by
  induction path with
  | nil => exact Nat.zero_le 1
  | cons a above ih =>
    have below : ∀ n ∈ above, p ∉ n.properties := fun n hn => fresh n (List.mem_cons_of_mem a hn)
    rw [countP_markPath_cons (fresh a List.mem_cons_self)]
    by_cases said : p ∈ rule above a
    · have others := countP_markPath_eq_zero alone below (alone above a said).2
      rw [if_pos said]
      omega
    · rw [if_neg said]
      exact ih below

end Alone

/-- No loop stands below an innermost node. -/
theorem isInnermost_iff {n : Node} :
    n.isInnermost = true ↔ ∀ c ∈ n.children, ∀ m ∈ c.preorder, m.isIteration = false := by
  rw [isInnermost, anyContainsIteration_eq, Bool.not_eq_true', List.any_eq_false]
  simp only [containsIteration_eq, List.any_eq_true, not_exists, not_and, Bool.not_eq_true]

end LoopLowering.Node
