/-
  Which nodes a walk visits, and when.

  1.  VISITS.  To visit an address is to show the visitor the node that the tree had there at first, and to set
      the annotations at the address to the answer (`visitAt`).  Visits of addresses below a child are visits of
      that child, and leave its siblings alone (`foldlM_below`), so the visits of all children are visits of one
      child after the other (`foldlM_children`).

  2.  WALKS.  Every walk is a series of visits, whatever the visitor does besides: of all addresses, or of those of
      the outermost loops, or of those of the innermost ones (`walk_eq`, `walkOutermost_eq`, `walkInnermost_eq`).
      The walk over the innermost loops goes to the children first, and it looks at the children that come back.
      It makes no difference: a visitor makes no loops (`bind_walkInnermost_congr`), and below a loop that is
      visited nothing else is.
-/
import LoopLowering.Proofs.Tree.Address

namespace LoopLowering.Node

variable {m : Type → Type} [Monad m]

/-! ## 1. Visits -/

/-- Shows the visitor what stood at an address of `root`, and sets the annotations there in `tree` to the
    answer. -/
def visitAt (visit : Visitor m) (root tree : Node) (path : List Nat) : m Node :=
  match root.at? path with
  | some n => do return setAt (← visit n) path tree
  | none => return tree

/-- Visits addresses, one after the other. -/
def visitEach (visit : Visitor m) (root : Node) (paths : List (List Nat)) : m Node :=
  paths.foldlM (visitAt visit root) root

variable {visit : Visitor m}

theorem visitAt_nil (root : Node) :
    visitAt visit root root [] = visit root >>= fun properties => pure ⟨root.kind, properties, root.children⟩ := by
  cases root
  rfl

theorem setAt_child (properties : PropertySet) (kind : Kind) (own : PropertySet) (front : List Node) (c : Node)
    (rest : List Node) (path : List Nat) :
    setAt properties (front.length :: path) ⟨kind, own, front ++ c :: rest⟩ =
      ⟨kind, own, front ++ setAt properties path c :: rest⟩ := by
  have changed : (front ++ c :: rest).modify front.length (setAt properties path) =
      front ++ setAt properties path c :: rest := by
    induction front with
    | nil => rfl
    | cons d front ih => exact congrArg (d :: ·) ih
  rw [setAt, changed]

variable [LawfulMonad m]

/-- A visit below a child is a visit of the child. -/
theorem visitAt_child {root c : Node} {front : List Node} (here : root.children[front.length]? = some c)
    (kind : Kind) (own : PropertySet) (c' : Node) (rest : List Node) (path : List Nat) :
    visitAt visit root ⟨kind, own, front ++ c' :: rest⟩ (front.length :: path) =
      visitAt visit c c' path >>= fun d => pure ⟨kind, own, front ++ d :: rest⟩ := by
  rw [visitAt, visitAt, at?_cons, here, Option.bind_some]
  cases c.at? path with
  | none => rw [pure_bind]
  | some n =>
    simp only [bind_assoc, pure_bind, setAt_child]

theorem foldlM_below {root c : Node} {front : List Node} (here : root.children[front.length]? = some c)
    (kind : Kind) (own : PropertySet) (rest : List Node) (paths : List (List Nat)) (c' : Node) :
    (paths.map (front.length :: ·)).foldlM (visitAt visit root) ⟨kind, own, front ++ c' :: rest⟩ =
      paths.foldlM (visitAt visit c) c' >>= fun d => pure ⟨kind, own, front ++ d :: rest⟩ := by
  induction paths generalizing c' with
  | nil => rw [List.map_nil, List.foldlM_nil, List.foldlM_nil, pure_bind]
  | cons path paths ih =>
    rw [List.map_cons, List.foldlM_cons, List.foldlM_cons, visitAt_child here, bind_assoc, bind_assoc]
    refine bind_congr fun d => ?_
    rw [pure_bind]
    exact ih d

/-- Visits of the children from some number on are visits of one of them after the other. -/
theorem foldlM_children {picks enters : Node → Bool} {f : Node → m Node} {root : Node} {l : List Node}
    (each : ∀ c ∈ l, f c = visitEach visit c (addressesWhere picks enters c)) (kind : Kind) (own : PropertySet) :
    ∀ front front', root.children = front ++ l → front.length = front'.length →
      (addressesWhereAll picks enters front'.length l).foldlM (visitAt visit root) ⟨kind, own, front' ++ l⟩ =
        l.mapM f >>= fun l' => pure ⟨kind, own, front' ++ l'⟩ := by
  induction l with
  | nil =>
    intro front front' _ _
    rw [addressesWhereAll, List.foldlM_nil, List.mapM_nil, pure_bind]
  | cons c l ih =>
    intro front front' split same
    have here : root.children[front'.length]? = some c := by
      rw [split, ← same, List.getElem?_append_right (Nat.le_refl _), Nat.sub_self]
      rfl
    have visited : ((addressesWhere picks enters c).map (front'.length :: ·)).foldlM (visitAt visit root)
          ⟨kind, own, front' ++ c :: l⟩ =
        visitEach visit c (addressesWhere picks enters c) >>= fun d => pure ⟨kind, own, front' ++ d :: l⟩ :=
      foldlM_below here kind own l _ c
    rw [addressesWhereAll, List.foldlM_append, visited, List.mapM_cons, each c List.mem_cons_self, bind_assoc,
      bind_assoc]
    refine bind_congr fun d => ?_
    have behind := ih (fun d hd => each d (List.mem_cons_of_mem c hd)) (front ++ [c]) (front' ++ [d])
      (by rw [split, List.append_assoc, List.singleton_append])
      (by rw [List.length_append, List.length_append, same]; rfl)
    rw [List.length_append, List.length_singleton, List.append_assoc, List.singleton_append] at behind
    rw [pure_bind, behind, bind_assoc]
    refine bind_congr fun l' => ?_
    rw [pure_bind, List.append_assoc, List.singleton_append]

/-- Visits of all children, where the root may have been visited before. -/
theorem foldlM_all {picks enters : Node → Bool} {f : Node → m Node} {kind : Kind} {properties : PropertySet}
    {children : List Node} (each : ∀ c ∈ children, f c = visitEach visit c (addressesWhere picks enters c))
    (own : PropertySet) :
    (addressesWhereAll picks enters 0 children).foldlM (visitAt visit ⟨kind, properties, children⟩)
        ⟨kind, own, children⟩ =
      children.mapM f >>= fun cs => pure ⟨kind, own, cs⟩ :=
  foldlM_children each kind own [] [] rfl rfl

/-! ## 2. Walks -/

/-- **The walk over all nodes visits each address.** -/
theorem walk_eq (visit : Visitor m) (root : Node) : root.walk visit = visitEach visit root root.addresses := by
  induction root using induct with
  | node kind properties children ih =>
    rw [walk, walkAll_eq, visitEach, addresses, addressesWhere, if_pos rfl, if_pos rfl, List.singleton_append,
      List.foldlM_cons, visitAt_nil, bind_assoc]
    refine bind_congr fun own => ?_
    rw [pure_bind]
    exact (foldlM_all ih own).symm

/-- **The walk over the outermost loops visits each of them.** -/
theorem walkOutermost_eq (visit : Visitor m) (root : Node) :
    root.walkOutermost visit = visitEach visit root root.outermostLoops := by
  induction root using induct with
  | node kind properties children ih =>
    have loop : isIteration ⟨kind, properties, children⟩ = kind.isIteration := rfl
    rw [walkOutermost, walkOutermostAll_eq, visitEach, outermostLoops, addressesWhere, loop]
    cases kind.isIteration with
    | true =>
      rw [if_pos rfl, if_pos rfl, Bool.not_true, if_neg Bool.false_ne_true, List.append_nil, List.foldlM_cons,
        visitAt_nil, bind_assoc]
      refine bind_congr fun own => ?_
      rw [pure_bind]
      rfl
    | false =>
      rw [if_neg Bool.false_ne_true, if_neg Bool.false_ne_true, Bool.not_false, if_pos rfl, List.nil_append]
      exact (foldlM_all ih properties).symm

/-- What comes back from each element agrees with it in `g`, so what comes back from a list does. -/
theorem bind_mapM_congr {α γ β : Type} {f : α → m α} {g : α → γ} {l : List α}
    (each : ∀ a ∈ l, ∀ k k' : α → m β, (∀ b, g b = g a → k b = k' b) → f a >>= k = f a >>= k')
    {k k' : List α → m β} (agree : ∀ l', l'.map g = l.map g → k l' = k' l') :
    l.mapM f >>= k = l.mapM f >>= k' := by
  induction l generalizing k k' with
  | nil => rw [List.mapM_nil, pure_bind, pure_bind, agree [] rfl]
  | cons a l ih =>
    rw [List.mapM_cons, bind_assoc, bind_assoc]
    refine each a List.mem_cons_self _ _ fun b same => ?_
    rw [bind_assoc, bind_assoc]
    refine ih (fun c hc => each c (List.mem_cons_of_mem a hc)) fun l' others => ?_
    rw [pure_bind, pure_bind]
    exact agree (b :: l') (by rw [List.map_cons, List.map_cons, same, others])

theorem anyContainsIteration_congr {l l' : List Node} (same : l'.map containsIteration = l.map containsIteration) :
    anyContainsIteration l' = anyContainsIteration l := by
  have shown : ∀ l : List Node, anyContainsIteration l = (l.map containsIteration).any id := by
    intro l
    rw [anyContainsIteration_eq, List.any_map]
    rfl
  rw [shown, shown, same]

/-- **Visitors make no loops and remove none**, so what follows a walk may rely on what was there before. -/
theorem bind_walkInnermost_congr {β : Type} (visit : Visitor m) (n : Node) {k k' : Node → m β}
    (agree : ∀ n', n'.containsIteration = n.containsIteration → k n' = k' n') :
    n.walkInnermost visit >>= k = n.walkInnermost visit >>= k' := by
  induction n using induct generalizing k k' with
  | node kind properties children ih =>
    rw [walkInnermost, walkInnermostAll_eq, bind_assoc, bind_assoc]
    refine bind_mapM_congr (fun c hc k k' => ih c hc) fun children' same => ?_
    have agrees : ∀ own, k ⟨kind, own, children'⟩ = k' ⟨kind, own, children'⟩ := by
      intro own
      refine agree _ ?_
      rw [containsIteration, containsIteration, anyContainsIteration_congr same]
    split
    · rw [bind_assoc, bind_assoc]
      refine bind_congr fun own => ?_
      rw [pure_bind, pure_bind, agrees]
    · rw [pure_bind, pure_bind, agrees]

theorem mapM_eq_pure {α : Type} {f : α → m α} {l : List α} (unchanged : ∀ a ∈ l, f a = pure a) :
    l.mapM f = pure l := by
  induction l with
  | nil => rw [List.mapM_nil]
  | cons a l ih =>
    rw [List.mapM_cons, unchanged a List.mem_cons_self, ih fun b hb => unchanged b (List.mem_cons_of_mem a hb),
      pure_bind, pure_bind]

/-- **The walk over the innermost loops visits each of them**, in the order of the other walks. -/
theorem walkInnermost_eq (visit : Visitor m) (root : Node) :
    root.walkInnermost visit = visitEach visit root root.innermostLoops := by
  induction root using induct with
  | node kind properties children ih =>
    have innermost : isInnermost ⟨kind, properties, children⟩ = !anyContainsIteration children := rfl
    have loop : isIteration ⟨kind, properties, children⟩ = kind.isIteration := rfl
    rw [walkInnermost, walkInnermostAll_eq, visitEach, innermostLoops, addressesWhere, innermost, loop]
    cases inside : anyContainsIteration children with
    | true =>
      -- The loops inside are still there when the children come back.
      have back : children.mapM (walkInnermost visit) >>= (fun cs =>
            if (kind.isIteration && !anyContainsIteration cs) = true then
              visit ⟨kind, properties, cs⟩ >>= fun own => pure (⟨kind, own, cs⟩ : Node)
            else pure ⟨kind, properties, cs⟩) =
          children.mapM (walkInnermost visit) >>= fun cs => pure (⟨kind, properties, cs⟩ : Node) := by
        refine bind_mapM_congr (fun c _ k k' => bind_walkInnermost_congr visit c) fun cs same => ?_
        rw [anyContainsIteration_congr same, inside, Bool.not_true, Bool.and_false, if_neg Bool.false_ne_true]
      rw [Bool.not_true, Bool.and_false, if_neg Bool.false_ne_true, if_pos rfl, List.nil_append]
      exact back.trans (foldlM_all ih properties).symm
    | false =>
      have none : ∀ c ∈ children, c.innermostLoops = [] := by
        intro c hc
        have loopFree := List.any_eq_false.1 ((anyContainsIteration_eq children).symm.trans inside) c hc
        exact Decidable.not_not.1 fun some => loopFree (containsIteration_iff_ne_nil.2.2 some)
      have unchanged : children.mapM (walkInnermost visit) = pure children := by
        refine mapM_eq_pure fun c hc => ?_
        rw [ih c hc, none c hc]
        rfl
      have nothing : addressesWhereAll (fun n => n.isIteration && n.isInnermost) (fun _ => true) 0 children = [] := by
        refine List.eq_nil_iff_forall_not_mem.2 fun path listed => ?_
        obtain ⟨j, c, rest, hc, -, within⟩ := mem_addressesWhereAll.1 listed
        exact List.ne_nil_of_mem within (none c (List.mem_of_getElem? hc))
      rw [unchanged, pure_bind, inside, nothing, Bool.not_false, Bool.and_true, ite_self, List.append_nil]
      cases kind.isIteration with
      | true =>
        rw [if_pos rfl, if_pos rfl, List.foldlM_cons, visitAt_nil, bind_assoc]
        refine bind_congr fun own => ?_
        rw [pure_bind]
        rfl
      | false => rfl

/-- A walk visits the wanted addresses of a tree, each once and in preorder. -/
structure Walks (visit : Visitor m) (root : Node) (walked : m Node) (paths : List (List Nat))
    (wanted : List Nat → Prop) : Prop where
  /-- The walk is a series of visits. -/
  visits : walked = visitEach visit root paths
  /-- What it visits is what is wanted. -/
  exactly : ∀ path, path ∈ paths ↔ wanted path
  /-- No address comes twice, and each before its continuations and before those to its right. -/
  increasing : paths.Pairwise (· < ·)

/-- **What the walks visit**, whatever the visitor does.  One visits all nodes, one the loops that have no loop above
    them, and one the loops that have none below them: each of them once, in preorder, and as it was before
    the walk.  Each loop stands in one outermost loop, and holds an innermost one or is one; so there are loops
    exactly if there is something to visit for the second walk, and exactly if there is for the third. -/
theorem walks_visit (visit : Visitor m) (root : Node) :
    Walks visit root (root.walk visit) root.addresses (fun path => (root.at? path).isSome = true) ∧
    root.addresses.map root.at? = root.preorder.map some ∧
    Walks visit root (root.walkOutermost visit) root.outermostLoops root.OutermostLoopAt ∧
    Walks visit root (root.walkInnermost visit) root.innermostLoops root.InnermostLoopAt ∧
    (∀ path, root.LoopAt path →
      (∃! o, root.OutermostLoopAt o ∧ o <+: path) ∧ ∃ i, root.InnermostLoopAt i ∧ path <+: i) ∧
    (root.containsIteration = true ↔ root.outermostLoops ≠ []) ∧
    (root.containsIteration = true ↔ root.innermostLoops ≠ []) := by
  have all : Walks visit root (root.walk visit) root.addresses fun path => (root.at? path).isSome = true :=
    ⟨walk_eq visit root, fun _ => mem_addresses, addressesWhere_pairwise _ _ root⟩
  have outermost : Walks visit root (root.walkOutermost visit) root.outermostLoops root.OutermostLoopAt :=
    ⟨walkOutermost_eq visit root, fun _ => mem_outermostLoops, addressesWhere_pairwise _ _ root⟩
  have innermost : Walks visit root (root.walkInnermost visit) root.innermostLoops root.InnermostLoopAt :=
    ⟨walkInnermost_eq visit root, fun _ => mem_innermostLoops, addressesWhere_pairwise _ _ root⟩
  refine ⟨all, map_at?_addresses root, outermost, innermost, ?_, containsIteration_iff_ne_nil⟩
  intro path loop
  exact ⟨existsUnique_outermost loop, exists_innermost loop⟩

/-- A visitor that notes the names of what it is shown and marks it: the innermost loops of a nest. -/
theorem walks_visit_nest :
    let root : Node := .callable "kernel"
      [.iteration "t" [.iteration "x" [.iteration "y" [.expression "u = 0"]], .iteration "s" []], .iteration "z" []]
    let visit : Visitor (StateM (List String)) := fun n => do
      modify (· ++ [n.kind.display])
      return n.properties.insert .vectorized
    LawfulMonad (StateM (List String)) ∧
    Walks visit root (root.walkInnermost visit) root.innermostLoops root.InnermostLoopAt ∧
    root.innermostLoops = [[0, 0, 0], [0, 1], [1]] ∧
    ((root.walkInnermost visit).run []).2 = ["Iteration(y)", "Iteration(s)", "Iteration(z)"] := by
  intro root visit
  have walks := (walks_visit visit root).2.2.2.1
  refine ⟨inferInstance, walks, rfl, ?_⟩
  rw [walks.visits]
  rfl

end LoopLowering.Node
