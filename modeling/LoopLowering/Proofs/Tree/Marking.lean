/-
  Marking a tree: annotations added node by node, as a rule says.

  1.  INDUCTION.  A tree is a node over a list of trees; `Node.induct` says that what passes from the
      children of a node to the node holds of every tree.  With it the functions on lists of trees are
      never looked at again: each is the function on trees, mapped (`markAll_eq`, `skeletonAll_eq`).

  2.  RULES.  A rule is told a node and the nodes above it, the nearest first, and answers with the
      annotations to add.  `mark rule` follows a rule everywhere in a tree.

  3.  SKELETONS.  The skeleton of a tree is the tree with no annotation left but `sequential`.  A rule
      that looks at skeletons only (`Rule.Sees`) and never adds `sequential` (`Rule.Keeps`) cannot tell
      a marked tree from the tree it was, so marking twice is marking once by both rules
      (`mark_mark`).  Since a node holds a SET of annotations, neither the order nor the number of
      the rules matters then (`mark_congr`).
-/
import LoopLowering.Tree.Traversal

namespace LoopLowering

namespace Node

/-! ## 1. Induction over trees -/

/-- What passes from the children of a node to the node holds of every tree. -/
@[elab_as_elim]
theorem induct {motive : Node → Prop}
    (node : ∀ kind properties children, (∀ c ∈ children, motive c) →
      motive ⟨kind, properties, children⟩) (n : Node) : motive n :=
  Node.rec (motive_1 := motive) (motive_2 := fun children => ∀ c ∈ children, motive c)
    (fun kind properties children ih => node kind properties children ih)
    (fun _ hc => absurd hc List.not_mem_nil)
    (fun _ _ ihn ihrest c hc => by
      rcases List.mem_cons.1 hc with rfl | hc
      · exact ihn
      · exact ihrest c hc) n

theorem preorderAll_eq (l : List Node) : preorderAll l = l.flatMap preorder := by
  induction l with
  | nil => rfl
  | cons n rest ih => rw [preorderAll, ih, List.flatMap_cons]

theorem anyContainsIteration_eq (l : List Node) :
    anyContainsIteration l = l.any containsIteration := by
  induction l with
  | nil => rfl
  | cons n rest ih => rw [anyContainsIteration, ih, List.any_cons]

section Walks

variable {m : Type → Type} [Monad m] [LawfulMonad m]

theorem walkAll_eq (visit : Visitor m) (l : List Node) : walkAll visit l = l.mapM (walk visit) := by
  induction l with
  | nil => rfl
  | cons n rest ih => rw [walkAll, ih, List.mapM_cons]

theorem walkOutermostAll_eq (visit : Visitor m) (l : List Node) :
    walkOutermostAll visit l = l.mapM (walkOutermost visit) := by
  induction l with
  | nil => rfl
  | cons n rest ih => rw [walkOutermostAll, ih, List.mapM_cons]

theorem walkInnermostAll_eq (visit : Visitor m) (l : List Node) :
    walkInnermostAll visit l = l.mapM (walkInnermost visit) := by
  induction l with
  | nil => rfl
  | cons n rest ih => rw [walkInnermostAll, ih, List.mapM_cons]

end Walks

/-! ## 2. Rules -/

/-- The annotations that a node shall get, told from the nodes above it, the nearest first. -/
abbrev Rule := List Node → Node → List Property

mutual

/-- The tree with the annotations added that the rule says. -/
def mark (rule : Rule) (above : List Node) : Node → Node
  | ⟨kind, properties, children⟩ =>
    ⟨kind, (rule above ⟨kind, properties, children⟩).foldl SortedSet.insert properties,
      markAll rule (⟨kind, properties, children⟩ :: above) children⟩

/-- The trees of a list, each with the annotations added that the rule says. -/
def markAll (rule : Rule) (above : List Node) : List Node → List Node
  | [] => []
  | n :: rest => mark rule above n :: markAll rule above rest

end

theorem markAll_eq (rule : Rule) (above l : List Node) :
    markAll rule above l = l.map (mark rule above) := by
  induction l with
  | nil => rfl
  | cons n rest ih => rw [markAll, ih, List.map_cons]

theorem mark_node (rule : Rule) (above : List Node) (kind : Kind) (properties : PropertySet)
    (children : List Node) :
    mark rule above ⟨kind, properties, children⟩ =
      ⟨kind, (rule above ⟨kind, properties, children⟩).foldl SortedSet.insert properties,
        children.map (mark rule (⟨kind, properties, children⟩ :: above))⟩ := by
  rw [mark, markAll_eq]

/-- Marking changes nothing where the rule adds nothing, at the tree or below it.  `P` is a condition
    on the nodes above that silences the rule and holds further down too. -/
theorem mark_eq_self {rule : Rule} {P : List Node → Prop}
    (silent : ∀ above n, P above → rule above n = [])
    (down : ∀ above n, P above → P (n :: above)) {above : List Node} (h : P above) (n : Node) :
    mark rule above n = n := by
  induction n using induct generalizing above with
  | node kind properties children ih =>
    have hc : children.map (mark rule (⟨kind, properties, children⟩ :: above)) = children.map id :=
      List.map_congr_left fun c hc => ih c hc (down above _ h)
    rw [mark_node, silent above _ h, hc, List.map_id, List.foldl_nil]

theorem map_mark_eq_self {rule : Rule} {P : List Node → Prop}
    (silent : ∀ above n, P above → rule above n = [])
    (down : ∀ above n, P above → P (n :: above)) {above : List Node} (h : P above) (l : List Node) :
    l.map (mark rule above) = l := by
  rw [List.map_congr_left fun n _ => mark_eq_self silent down h n, List.map_id']

/-- Rules that say the same annotations mark the same. -/
theorem mark_congr {r q : Rule} (h : ∀ above n p, p ∈ r above n ↔ p ∈ q above n)
    (above : List Node) (n : Node) : mark r above n = mark q above n := by
  induction n using induct generalizing above with
  | node kind properties children ih =>
    have hp : (r above ⟨kind, properties, children⟩).foldl SortedSet.insert properties =
        (q above ⟨kind, properties, children⟩).foldl SortedSet.insert properties := by
      apply SortedSet.ext
      intro p
      rw [SortedSet.mem_foldl_insert, SortedSet.mem_foldl_insert, h]
    rw [mark_node, mark_node, hp, List.map_congr_left fun c hc => ih c hc _]

/-! ## 3. Skeletons -/

mutual

/-- The tree with no annotation left but `sequential`. -/
def skeleton : Node → Node
  | ⟨kind, properties, children⟩ =>
    ⟨kind, if .sequential ∈ properties then SortedSet.ofList [.sequential] else ∅, skeletonAll children⟩

/-- The trees of a list with no annotation left but `sequential`. -/
def skeletonAll : List Node → List Node
  | [] => []
  | n :: rest => skeleton n :: skeletonAll rest

end

theorem skeletonAll_eq (l : List Node) : skeletonAll l = l.map skeleton := by
  induction l with
  | nil => rfl
  | cons n rest ih => rw [skeletonAll, ih, List.map_cons]

theorem skeleton_node (kind : Kind) (properties : PropertySet) (children : List Node) :
    skeleton ⟨kind, properties, children⟩ =
      ⟨kind, if .sequential ∈ properties then SortedSet.ofList [.sequential] else ∅,
        children.map skeleton⟩ := by
  rw [skeleton, skeletonAll_eq]

/-- The rule never adds `sequential`. -/
def Rule.Keeps (rule : Rule) : Prop := ∀ above n, .sequential ∉ rule above n

/-- The rule sees nothing of a tree but its skeleton. -/
def Rule.Sees (rule : Rule) : Prop :=
  ∀ above above' n n', above.map skeleton = above'.map skeleton → n.skeleton = n'.skeleton →
    rule above n = rule above' n'

theorem skeleton_mark {rule : Rule} (keeps : rule.Keeps) (above : List Node) (n : Node) :
    (mark rule above n).skeleton = n.skeleton := by
  induction n using induct generalizing above with
  | node kind properties children ih =>
    have hs : .sequential ∈ (rule above ⟨kind, properties, children⟩).foldl SortedSet.insert properties ↔
        .sequential ∈ properties := by
      rw [SortedSet.mem_foldl_insert]
      exact ⟨fun h => h.resolve_right (keeps above _), Or.inl⟩
    have hc : (children.map (mark rule (⟨kind, properties, children⟩ :: above))).map skeleton =
        children.map skeleton := by
      rw [List.map_map]
      exact List.map_congr_left fun c hc => ih c hc _
    rw [mark_node, skeleton_node, skeleton_node, hc]
    simp only [hs]

/-- **Marking twice is marking once.**  The second rule meets marked nodes, above and below, but it
    sees their skeletons only. -/
theorem mark_mark {r q : Rule} (sees : r.Sees) (keeps : q.Keeps) {above above' : List Node}
    (h : above.map skeleton = above'.map skeleton) (n : Node) :
    mark r above (mark q above' n) = mark (fun above n => q above n ++ r above n) above' n := by
  induction n using induct generalizing above above' with
  | node kind properties children ih =>
    have here : (mark q above' ⟨kind, properties, children⟩).skeleton =
        skeleton ⟨kind, properties, children⟩ := skeleton_mark keeps above' _
    have said : r above (mark q above' ⟨kind, properties, children⟩) =
        r above' ⟨kind, properties, children⟩ := sees above above' _ _ h here
    rw [mark_node q] at here said ⊢
    rw [mark_node, mark_node, said, List.map_map, List.foldl_append]
    congr 1
    refine List.map_congr_left fun c hc => ih c hc ?_
    rw [List.map_cons, List.map_cons, here, h]

/-! ## What a skeleton shows -/

theorem kind_eq_of_skeleton {n n' : Node} (h : n.skeleton = n'.skeleton) : n.kind = n'.kind := by
  cases n; cases n'
  rw [skeleton_node, skeleton_node] at h
  exact (Node.mk.inj h).1

theorem children_eq_of_skeleton {n n' : Node} (h : n.skeleton = n'.skeleton) :
    n.children.map skeleton = n'.children.map skeleton := by
  cases n; cases n'
  rw [skeleton_node, skeleton_node] at h
  exact (Node.mk.inj h).2.2

theorem sequential_of_skeleton {n n' : Node} (h : n.skeleton = n'.skeleton) :
    n.hasProperty .sequential = n'.hasProperty .sequential := by
  have shown : ∀ m : Node, m.hasProperty .sequential = m.skeleton.hasProperty .sequential := by
    intro m
    cases m with
    | mk kind properties children =>
      rw [skeleton_node]
      by_cases hs : Property.sequential ∈ properties
      · simp [hasProperty, SortedSet.contains, hs]
      · simp [hasProperty, SortedSet.contains, hs]
  rw [shown n, shown n', h]

/-- A skeleton has the nodes of the tree, in order, as skeletons. -/
theorem preorder_skeleton (n : Node) : n.skeleton.preorder = n.preorder.map skeleton := by
  induction n using induct with
  | node kind properties children ih =>
    rw [skeleton_node, preorder, preorder, preorderAll_eq, preorderAll_eq, List.map_cons,
      skeleton_node, List.flatMap_map, List.map_flatMap]
    congr 1
    rw [List.flatMap_def, List.flatMap_def, List.map_congr_left fun c hc => ih c hc]

/-- A question about nodes that skeletons answer. -/
def Seen (f : Node → Bool) : Prop := ∀ n n', n.skeleton = n'.skeleton → f n = f n'

theorem Seen.any {f : Node → Bool} (hf : Seen f) :
    ∀ {l l' : List Node}, l.map skeleton = l'.map skeleton → l.any f = l'.any f
  | [], [], _ => rfl
  | n :: l, n' :: l', h => by
    obtain ⟨hn, hl⟩ := List.cons.inj h
    rw [List.any_cons, List.any_cons, hf n n' hn, hf.any hl]

theorem Seen.any_preorder {f : Node → Bool} (hf : Seen f) : Seen fun n => n.preorder.any f := by
  intro n n' h
  refine hf.any ?_
  rw [← preorder_skeleton, ← preorder_skeleton, h]

theorem seen_isIteration : Seen isIteration :=
  fun _ _ h => congrArg Kind.isIteration (kind_eq_of_skeleton h)

theorem seen_isCallable : Seen fun n => n.kind.isCallable :=
  fun _ _ h => congrArg Kind.isCallable (kind_eq_of_skeleton h)

theorem containsIteration_eq (n : Node) : n.containsIteration = n.preorder.any isIteration := by
  induction n using induct with
  | node kind properties children ih =>
    rw [containsIteration, preorder, anyContainsIteration_eq, preorderAll_eq, List.any_cons,
      List.any_flatMap]
    congr 1
    rw [Bool.eq_iff_iff, List.any_eq_true, List.any_eq_true]
    exact exists_congr fun c => and_congr_right fun hc => by rw [ih c hc]

theorem seen_containsIteration : Seen containsIteration := fun n n' h => by
  rw [containsIteration_eq, containsIteration_eq]
  exact seen_isIteration.any_preorder n n' h

theorem seen_isInnermost : Seen isInnermost := fun n n' h => by
  rw [isInnermost, isInnermost, anyContainsIteration_eq, anyContainsIteration_eq,
    seen_containsIteration.any (children_eq_of_skeleton h)]

end Node

end LoopLowering
