/-
  Addresses of nodes.

  1.  ADDRESSES.  A node is told from its equals by the numbers of the children on the way down from the root.  A
      node stands ABOVE another if its address is a proper beginning of the other's (`Above`).

  2.  LISTS.  `addressesWhere` goes through a tree from above: it lists the nodes that a condition picks, and does
      not enter the children of those that another condition closes.  So it lists what is picked and has nothing
      closed above it (`mem_addressesWhere`), in the order of a dictionary, beginnings first
      (`addressesWhere_pairwise`); in that order nothing is listed twice.  The list of all addresses is the
      preorder of the nodes (`map_at?_addresses`).

  3.  LOOPS.  The loops above all others are picked by closing each loop, and the loops below all others by
      looking at the children (`mem_outermostLoops`, `mem_innermostLoops`).  Going up from a loop one comes to
      one loop that has none above it (`existsUnique_outermost`), and going down to some that has none below it
      (`exists_innermost`).
-/
import Mathlib.Logic.ExistsUnique
import LoopLowering.Proofs.Tree.Place

namespace LoopLowering.Node

/-! ## 1. Addresses -/

theorem map_snd_place? (above above' : List Node) (root : Node) (path : List Nat) :
    (place? above root path).map Prod.snd = (place? above' root path).map Prod.snd := by
  induction path generalizing above above' root with
  | nil => rfl
  | cons i path ih =>
    rw [place?, place?]
    cases root.children[i]? with
    | none => rfl
    | some c => exact ih _ _ c

/-- The node at an address. -/
def at? (root : Node) (path : List Nat) : Option Node := (place? [] root path).map Prod.snd

theorem at?_nil (root : Node) : root.at? [] = some root := rfl

theorem at?_cons (root : Node) (i : Nat) (path : List Nat) :
    root.at? (i :: path) = root.children[i]?.bind fun c => c.at? path := by
  rw [at?, place?]
  cases root.children[i]? with
  | none => rfl
  | some c => exact map_snd_place? _ _ c path

theorem at?_append (root : Node) (path more : List Nat) :
    root.at? (path ++ more) = (root.at? path).bind fun n => n.at? more := by
  induction path generalizing root with
  | nil => rfl
  | cons i path ih =>
    rw [List.cons_append, at?_cons, at?_cons]
    cases root.children[i]? with
    | none => rfl
    | some c => exact ih c

/-- The tree with other annotations at an address. -/
def setAt (properties : PropertySet) : List Nat → Node → Node
  | [], ⟨kind, _, children⟩ => ⟨kind, properties, children⟩
  | i :: path, ⟨kind, own, children⟩ => ⟨kind, own, children.modify i (setAt properties path)⟩

/-- The node at the first address stands above the one at the second. -/
def Above (before path : List Nat) : Prop := before <+: path ∧ before ≠ path

theorem not_above_nil (before : List Nat) : ¬ Above before [] := by
  rintro ⟨way, other⟩
  exact other (List.prefix_nil.1 way)

/-- Above a child of the root are the root, and what is above it in its own tree. -/
theorem forall_above_cons {P : List Nat → Prop} {i : Nat} {path : List Nat} :
    (∀ before, Above before (i :: path) → P before) ↔ P [] ∧ ∀ before, Above before path → P (i :: before) := by
  constructor
  · intro h
    refine ⟨h [] ⟨List.nil_prefix, nofun⟩, ?_⟩
    rintro before ⟨way, other⟩
    exact h _ ⟨List.cons_prefix_cons.2 ⟨rfl, way⟩, fun same => other (List.cons.inj same).2⟩
  · rintro ⟨top, below⟩ before ⟨way, other⟩
    rcases List.prefix_cons_iff.1 way with rfl | ⟨rest, rfl, down⟩
    · exact top
    · exact below rest ⟨down, fun same => other (congrArg _ same)⟩

/-- Below an address are its proper continuations. -/
theorem forall_behind {P : List Nat → Prop} {path : List Nat} :
    (∀ behind, Above path behind → P behind) ↔ ∀ i more, P (path ++ i :: more) := by
  constructor
  · intro h i more
    exact h _ ⟨List.prefix_append _ _, fun same => nomatch List.self_eq_append_right.1 same⟩
  · rintro h _ ⟨⟨more, rfl⟩, other⟩
    cases more with
    | nil => exact absurd (List.append_nil path).symm other
    | cons i more => exact h i more

theorem Above.length_lt {before path : List Nat} (h : Above before path) : before.length < path.length := by
  rcases Nat.eq_or_lt_of_le h.1.length_le with same | less
  · exact absurd (h.1.eq_of_length same) h.2
  · exact less

/-! ## 2. Lists of addresses -/

mutual

/-- The addresses of the nodes that `picks` picks, from above; what stands below a node that `enters` refuses is
    left out. -/
def addressesWhere (picks enters : Node → Bool) : Node → List (List Nat)
  | ⟨kind, properties, children⟩ =>
    (if picks ⟨kind, properties, children⟩ then [[]] else []) ++
      if enters ⟨kind, properties, children⟩ then addressesWhereAll picks enters 0 children else []

/-- The addresses in a list of trees that are the children from number `i` on. -/
def addressesWhereAll (picks enters : Node → Bool) (i : Nat) : List Node → List (List Nat)
  | [] => []
  | n :: rest =>
    (addressesWhere picks enters n).map (i :: ·) ++ addressesWhereAll picks enters (i + 1) rest

end

variable {picks enters : Node → Bool}

theorem mem_addressesWhereAll {i : Nat} {l : List Node} {path : List Nat} :
    path ∈ addressesWhereAll picks enters i l ↔ ∃ j c rest, l[j]? = some c ∧ path = (i + j) :: rest ∧
      rest ∈ addressesWhere picks enters c := by
  induction l generalizing i with
  | nil =>
    constructor
    · intro h
      cases h
    · rintro ⟨j, c, rest, hc, -⟩
      cases hc
  | cons n l ih =>
    rw [addressesWhereAll, List.mem_append, List.mem_map, ih]
    constructor
    · rintro (⟨rest, inside, rfl⟩ | ⟨j, c, rest, hc, rfl, inside⟩)
      · exact ⟨0, n, rest, rfl, rfl, inside⟩
      · refine ⟨j + 1, c, rest, hc, ?_, inside⟩
        rw [Nat.add_right_comm, Nat.add_assoc]
    · rintro ⟨j, c, rest, hc, rfl, inside⟩
      cases j with
      | zero =>
        obtain rfl := Option.some.inj hc
        exact Or.inl ⟨rest, inside, rfl⟩
      | succ j =>
        refine Or.inr ⟨j, c, rest, hc, ?_, inside⟩
        rw [Nat.add_right_comm, Nat.add_assoc]

theorem nil_mem_addressesWhere {root : Node} : [] ∈ addressesWhere picks enters root ↔ picks root = true := by
  cases root with
  | mk kind properties children =>
    rw [addressesWhere, List.mem_append]
    constructor
    · rintro (here | below)
      · split at here
        · assumption
        · cases here
      · split at below
        · obtain ⟨_, _, _, _, other, _⟩ := mem_addressesWhereAll.1 below
          cases other
        · cases below
    · intro picked
      rw [if_pos picked]
      exact Or.inl List.mem_cons_self

theorem cons_mem_addressesWhere {root : Node} {i : Nat} {path : List Nat} :
    i :: path ∈ addressesWhere picks enters root ↔
      enters root = true ∧ ∃ c, root.children[i]? = some c ∧ path ∈ addressesWhere picks enters c := by
  cases root with
  | mk kind properties children =>
    have elsewhere : i :: path ∉ (if picks ⟨kind, properties, children⟩ then [[]] else []) := by
      split
      · exact fun h => nomatch List.mem_singleton.1 h
      · exact List.not_mem_nil
    rw [addressesWhere, List.mem_append, or_iff_right elsewhere]
    constructor
    · intro below
      split at below
      · obtain ⟨j, c, rest, hc, same, inside⟩ := mem_addressesWhereAll.1 below
        obtain ⟨rfl, rfl⟩ := List.cons.inj same
        rw [Nat.zero_add]
        exact ⟨‹_›, c, hc, inside⟩
      · cases below
    · rintro ⟨entered, c, hc, inside⟩
      rw [if_pos entered]
      exact mem_addressesWhereAll.2 ⟨i, c, path, hc, by rw [Nat.zero_add], inside⟩

/-- **What is listed**: what is picked, and has nothing above it that is not entered. -/
theorem mem_addressesWhere {root : Node} {path : List Nat} :
    path ∈ addressesWhere picks enters root ↔ (∃ n, root.at? path = some n ∧ picks n = true) ∧
      ∀ before, Above before path → ∀ a, root.at? before = some a → enters a = true := by
  induction path generalizing root with
  | nil =>
    rw [nil_mem_addressesWhere]
    constructor
    · exact fun picked => ⟨⟨root, rfl, picked⟩, fun before above => absurd above (not_above_nil before)⟩
    · rintro ⟨⟨n, here, picked⟩, -⟩
      obtain rfl := Option.some.inj here
      exact picked
  | cons i path ih =>
    rw [cons_mem_addressesWhere, forall_above_cons, at?_nil]
    simp only [at?_cons, Option.some.injEq, forall_eq']
    cases root.children[i]? with
    | none => simp
    | some c =>
      simp only [Option.some.injEq, exists_eq_left', Option.bind_some, ih]
      exact and_left_comm

theorem addressesWhereAll_pairwise {l : List Node}
    (each : ∀ c ∈ l, (addressesWhere picks enters c).Pairwise (· < ·)) (i : Nat) :
    (addressesWhereAll picks enters i l).Pairwise (· < ·) := by
  induction l generalizing i with
  | nil => exact List.Pairwise.nil
  | cons n l ih =>
    rw [addressesWhereAll, List.pairwise_append]
    refine ⟨?_, ih (fun c hc => each c (List.mem_cons_of_mem n hc)) (i + 1), ?_⟩
    · rw [List.pairwise_map]
      exact (each n List.mem_cons_self).imp fun less => List.cons_lt_cons_iff.2 (Or.inr ⟨rfl, less⟩)
    · intro a ha b hb
      obtain ⟨front, -, rfl⟩ := List.mem_map.1 ha
      obtain ⟨j, -, rest, -, rfl, -⟩ := mem_addressesWhereAll.1 hb
      exact List.cons_lt_cons_iff.2 (Or.inl (by omega))

/-- **Addresses are listed in the order of a dictionary.** -/
theorem addressesWhere_pairwise (picks enters : Node → Bool) (root : Node) :
    (addressesWhere picks enters root).Pairwise (· < ·) := by
  induction root using induct with
  | node kind properties children ih =>
    have below : (if enters ⟨kind, properties, children⟩ then addressesWhereAll picks enters 0 children
        else []).Pairwise (· < ·) := by
      split
      · exact addressesWhereAll_pairwise ih 0
      · exact List.Pairwise.nil
    rw [addressesWhere]
    split
    · refine List.pairwise_cons.2 ⟨fun path inside => ?_, below⟩
      split at inside
      · obtain ⟨_, _, _, _, rfl, _⟩ := mem_addressesWhereAll.1 inside
        exact List.nil_lt_cons _ _
      · cases inside
    · exact below

/-- All addresses of a tree. -/
def addresses (root : Node) : List (List Nat) := addressesWhere (fun _ => true) (fun _ => true) root

theorem mem_addresses {root : Node} {path : List Nat} :
    path ∈ root.addresses ↔ (root.at? path).isSome = true := by
  rw [addresses, mem_addressesWhere, Option.isSome_iff_exists]
  simp only [and_true, implies_true]

/-- The addresses of the children from some number on, which stand behind `front`. -/
theorem map_at?_addressesWhereAll {root : Node} {l : List Node}
    (each : ∀ c ∈ l, c.addresses.map c.at? = c.preorder.map some) :
    ∀ front, root.children = front ++ l →
      (addressesWhereAll (fun _ => true) (fun _ => true) front.length l).map root.at? = (preorderAll l).map some := by
  induction l with
  | nil => exact fun _ _ => rfl
  | cons c l ih =>
    intro front split
    have here : root.children[front.length]? = some c := by
      rw [split, List.getElem?_append_right (Nat.le_refl _), Nat.sub_self]
      rfl
    have down : (root.at? ∘ (front.length :: ·)) = c.at? := by
      funext path
      rw [Function.comp, at?_cons, here, Option.bind_some]
    have behind : root.children = (front ++ [c]) ++ l := by
      rw [split, List.append_assoc, List.singleton_append]
    have others := ih (fun d hd => each d (List.mem_cons_of_mem c hd)) _ behind
    rw [List.length_append, List.length_singleton] at others
    rw [addressesWhereAll, List.map_append, List.map_map, down, others, preorderAll, List.map_append]
    congr 1
    exact each c List.mem_cons_self

/-- **The addresses of a tree lead through its preorder.** -/
theorem map_at?_addresses (root : Node) : root.addresses.map root.at? = root.preorder.map some := by
  induction root using induct with
  | node kind properties children ih =>
    have below : (addressesWhereAll (fun _ => true) (fun _ => true) 0 children).map
        (at? ⟨kind, properties, children⟩) = (preorderAll children).map some := map_at?_addressesWhereAll ih [] rfl
    rw [addresses, addressesWhere, if_pos rfl, if_pos rfl, preorder, List.map_append, List.map_cons]
    exact congrArg _ below

theorem mem_preorder_iff {root n : Node} : n ∈ root.preorder ↔ ∃ path, root.at? path = some n := by
  have listed : some n ∈ root.addresses.map root.at? ↔ some n ∈ root.preorder.map some := by
    rw [map_at?_addresses]
  constructor
  · intro inside
    obtain ⟨path, -, here⟩ := List.mem_map.1 (listed.2 (List.mem_map_of_mem inside))
    exact ⟨path, here⟩
  · rintro ⟨path, here⟩
    have address : path ∈ root.addresses := mem_addresses.2 (by rw [here]; rfl)
    obtain ⟨m, inside, same⟩ := List.mem_map.1 (listed.1 (List.mem_map.2 ⟨path, address, here⟩))
    rw [← Option.some.inj same]
    exact inside

/-! ## 3. Loops -/

/-- A loop stands at the address. -/
def LoopAt (root : Node) (path : List Nat) : Prop := ∃ n, root.at? path = some n ∧ n.isIteration = true

/-- A loop stands at the address, and none above it. -/
def OutermostLoopAt (root : Node) (path : List Nat) : Prop :=
  root.LoopAt path ∧ ∀ before, Above before path → ¬ root.LoopAt before

/-- A loop stands at the address, and none below it. -/
def InnermostLoopAt (root : Node) (path : List Nat) : Prop :=
  root.LoopAt path ∧ ∀ behind, Above path behind → ¬ root.LoopAt behind

theorem loopAt_nil {root : Node} : root.LoopAt [] ↔ root.isIteration = true := by
  rw [LoopAt, at?_nil]
  simp only [Option.some.injEq, exists_eq_left']

theorem loopAt_cons {root : Node} {i : Nat} {path : List Nat} :
    root.LoopAt (i :: path) ↔ ∃ c, root.children[i]? = some c ∧ c.LoopAt path := by
  rw [LoopAt, at?_cons]
  cases root.children[i]? with
  | none => simp
  | some c =>
    simp only [Option.bind_some, Option.some.injEq, exists_eq_left']
    exact Iff.rfl

theorem loopAt_append {root n : Node} {path more : List Nat} (here : root.at? path = some n) :
    root.LoopAt (path ++ more) ↔ n.LoopAt more := by
  rw [LoopAt, at?_append, here, Option.bind_some]
  exact Iff.rfl

/-- A tree contains a loop exactly if one stands at some address. -/
theorem containsIteration_iff {root : Node} : root.containsIteration = true ↔ ∃ path, root.LoopAt path := by
  rw [containsIteration_eq, List.any_eq_true]
  constructor
  · rintro ⟨n, inside, loop⟩
    obtain ⟨path, here⟩ := mem_preorder_iff.1 inside
    exact ⟨path, n, here, loop⟩
  · rintro ⟨path, n, here, loop⟩
    exact ⟨n, mem_preorder_iff.2 ⟨path, here⟩, loop⟩

theorem isInnermost_iff_loopAt {root : Node} :
    root.isInnermost = true ↔ ∀ i path, ¬ root.LoopAt (i :: path) := by
  rw [isInnermost, Bool.not_eq_true', ← Bool.not_eq_true, anyContainsIteration_eq, List.any_eq_true]
  constructor
  · intro none i path loop
    obtain ⟨c, hc, below⟩ := loopAt_cons.1 loop
    exact none ⟨c, List.mem_of_getElem? hc, containsIteration_iff.2 ⟨path, below⟩⟩
  · rintro none ⟨c, hc, contains⟩
    obtain ⟨i, hi⟩ := List.mem_iff_getElem?.1 hc
    obtain ⟨path, loop⟩ := containsIteration_iff.1 contains
    exact none i path (loopAt_cons.2 ⟨c, hi, loop⟩)

/-- The addresses of the loops with no loop above. -/
def outermostLoops (root : Node) : List (List Nat) := addressesWhere isIteration (fun n => !n.isIteration) root

/-- The addresses of the loops with no loop below. -/
def innermostLoops (root : Node) : List (List Nat) :=
  addressesWhere (fun n => n.isIteration && n.isInnermost) (fun _ => true) root

theorem mem_outermostLoops {root : Node} {path : List Nat} :
    path ∈ root.outermostLoops ↔ root.OutermostLoopAt path := by
  rw [outermostLoops, mem_addressesWhere]
  refine and_congr_right fun _ => forall₂_congr fun before _ => ?_
  simp only [LoopAt, Bool.not_eq_true', not_exists, not_and, Bool.not_eq_true]

theorem mem_innermostLoops {root : Node} {path : List Nat} :
    path ∈ root.innermostLoops ↔ root.InnermostLoopAt path := by
  rw [innermostLoops, mem_addressesWhere, InnermostLoopAt, forall_behind]
  simp only [implies_true, and_true, Bool.and_eq_true]
  constructor
  · rintro ⟨n, here, loop, innermost⟩
    refine ⟨⟨n, here, loop⟩, fun i more below => ?_⟩
    exact isInnermost_iff_loopAt.1 innermost i more ((loopAt_append here).1 below)
  · rintro ⟨⟨n, here, loop⟩, none⟩
    refine ⟨n, here, loop, isInnermost_iff_loopAt.2 fun i more below => ?_⟩
    exact none i more ((loopAt_append here).2 below)

/-- Going up from a loop, one comes to a loop with none above. -/
theorem exists_outermost {root : Node} {path : List Nat} (loop : root.LoopAt path) :
    ∃ o, root.OutermostLoopAt o ∧ o <+: path := by
  by_cases top : ∀ before, Above before path → ¬ root.LoopAt before
  · exact ⟨path, ⟨loop, top⟩, List.prefix_rfl⟩
  · simp only [Classical.not_forall, Classical.not_not] at top
    obtain ⟨before, above, loop⟩ := top
    have shorter := above.length_lt
    obtain ⟨o, outermost, way⟩ := exists_outermost loop
    exact ⟨o, outermost, way.trans above.1⟩
termination_by path.length

/-- **Each loop stands in one outermost loop.** -/
theorem existsUnique_outermost {root : Node} {path : List Nat} (loop : root.LoopAt path) :
    ∃! o, root.OutermostLoopAt o ∧ o <+: path := by
  obtain ⟨o, outermost, way⟩ := exists_outermost loop
  refine ⟨o, ⟨outermost, way⟩, ?_⟩
  rintro o' ⟨outermost', way'⟩
  by_cases same : o' = o
  · exact same
  · -- One of the two stands above the other.
    rcases List.prefix_or_prefix_of_prefix way' way with up | down
    · exact absurd outermost'.1 (outermost.2 o' ⟨up, same⟩)
    · exact absurd outermost.1 (outermost'.2 o ⟨down, Ne.symm same⟩)

theorem innermostLoops_ne_nil {root : Node} (contains : root.containsIteration = true) :
    root.innermostLoops ≠ [] := by
  induction root using induct with
  | node kind properties children ih =>
    rw [containsIteration, anyContainsIteration_eq] at contains
    cases below : children.any containsIteration with
    | true =>
      obtain ⟨c, hc, inside⟩ := List.any_eq_true.1 below
      obtain ⟨i, hi⟩ := List.mem_iff_getElem?.1 hc
      obtain ⟨path, innermost⟩ := List.exists_mem_of_ne_nil _ (ih c hc inside)
      exact List.ne_nil_of_mem (cons_mem_addressesWhere.2 ⟨rfl, c, hi, innermost⟩)
    | false =>
      rw [below, Bool.or_false] at contains
      have innermost : isInnermost ⟨kind, properties, children⟩ = true := by
        rw [isInnermost, anyContainsIteration_eq, below]
        rfl
      refine List.ne_nil_of_mem (nil_mem_addressesWhere.2 ?_)
      rw [innermost, Bool.and_true]
      exact contains

/-- **Each loop holds an innermost loop**, or is one. -/
theorem exists_innermost {root : Node} {path : List Nat} (loop : root.LoopAt path) :
    ∃ i, root.InnermostLoopAt i ∧ path <+: i := by
  obtain ⟨n, here, kind⟩ := loop
  have contains : n.containsIteration = true := containsIteration_iff.2 ⟨[], loopAt_nil.2 kind⟩
  obtain ⟨more, inside⟩ := List.exists_mem_of_ne_nil _ (innermostLoops_ne_nil contains)
  obtain ⟨below, none⟩ := mem_innermostLoops.1 inside
  refine ⟨path ++ more, ⟨(loopAt_append here).2 below, forall_behind.2 fun j rest => ?_⟩, List.prefix_append _ _⟩
  rw [List.append_assoc, loopAt_append here]
  exact forall_behind.1 none j rest

/-- A tree contains a loop exactly if it has an outermost loop, and exactly if it has an innermost one. -/
theorem containsIteration_iff_ne_nil {root : Node} :
    (root.containsIteration = true ↔ root.outermostLoops ≠ []) ∧
      (root.containsIteration = true ↔ root.innermostLoops ≠ []) := by
  refine ⟨⟨fun contains => ?_, fun some => ?_⟩, innermostLoops_ne_nil, fun some => ?_⟩
  · obtain ⟨path, loop⟩ := containsIteration_iff.1 contains
    obtain ⟨o, outermost, -⟩ := exists_outermost loop
    exact List.ne_nil_of_mem (mem_outermostLoops.2 outermost)
  · obtain ⟨o, inside⟩ := List.exists_mem_of_ne_nil _ some
    exact containsIteration_iff.2 ⟨o, (mem_outermostLoops.1 inside).1⟩
  · obtain ⟨i, inside⟩ := List.exists_mem_of_ne_nil _ some
    exact containsIteration_iff.2 ⟨i, (mem_innermostLoops.1 inside).1⟩

end LoopLowering.Node
