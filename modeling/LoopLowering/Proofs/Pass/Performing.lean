/-
  Each annotation pass performs its effect.

  A pass walks the tree in its own way: it shows every node to a visitor, or the outermost loops, or the
  innermost ones, or it looks through the loops that it must not mark.  Whatever the walk, the tree that
  it leaves is the tree marked by the rule of the pass, and the count that it keeps is positive exactly
  if some node calls for the headers of the pass:

    1.  `run_walk_tally`, `walk_annotateIf` — every node;
    2.  `run_walkOutermost_tally`           — the outermost loops;
    3.  `walkInnermost_annotateIf`          — the innermost loops;
    4.  `markParallel_eq`                   — the outermost loops that may run in parallel, and those
                                              directly below them.

  Together they give `run_eq`: a pass of the library refuses as options and platform say, or else leaves
  the unit that its effect leaves.
-/
import LoopLowering.Proofs.Pass.Effect

namespace LoopLowering

namespace Node

/-! ## Outermost nodes -/

mutual

/-- The nodes that satisfy a condition and stand below no other that does. -/
def outermostWhere (condition : Node → Bool) : Node → List Node
  | ⟨kind, properties, children⟩ =>
    if condition ⟨kind, properties, children⟩ then [⟨kind, properties, children⟩]
    else outermostWhereAll condition children

/-- The outermost nodes of a list of trees that satisfy a condition. -/
def outermostWhereAll (condition : Node → Bool) : List Node → List Node
  | [] => []
  | n :: rest => outermostWhere condition n ++ outermostWhereAll condition rest

end

theorem outermostWhereAll_eq (condition : Node → Bool) (l : List Node) :
    outermostWhereAll condition l = l.flatMap (outermostWhere condition) := by
  induction l with
  | nil => rfl
  | cons n rest ih => rw [outermostWhereAll, ih, List.flatMap_cons]

/-- Some node satisfies the condition exactly if an outermost one does. -/
theorem outermostWhere_pos {condition : Node → Bool} (n : Node) :
    0 < (n.outermostWhere condition).length ↔ n.preorder.any condition = true := by
  induction n using induct with
  | node kind properties children ih =>
    rw [outermostWhere, outermostWhereAll_eq, preorder, preorderAll_eq, List.any_cons]
    cases h : condition ⟨kind, properties, children⟩ with
    | true => simp
    | false =>
      rw [if_neg (by simp), Bool.false_or, List.length_pos_iff_exists_mem, List.any_flatMap, List.any_eq_true]
      constructor
      · rintro ⟨d, hd⟩
        obtain ⟨c, hc, hd⟩ := List.mem_flatMap.1 hd
        exact ⟨c, hc, (ih c hc).1 (List.length_pos_of_mem hd)⟩
      · rintro ⟨c, hc, hany⟩
        obtain ⟨d, hd⟩ := List.exists_mem_of_length_pos ((ih c hc).2 hany)
        exact ⟨d, List.mem_flatMap.2 ⟨c, hc, hd⟩⟩

end Node

namespace Pass

open Node (Rule mark mark_node induct)

theorem foldl_adding (p : Property) (condition : List Node → Node → Bool) (above : List Node) (n : Node)
    (properties : PropertySet) :
    (adding p condition above n).foldl SortedSet.insert properties =
      if condition above n then properties.insert p else properties := by
  unfold adding
  cases condition above n <;> rfl

/-! ## Counting visitors -/

theorem run_bind_eq {α β : Type} {f : StateM Nat α} {g : α → StateM Nat β} {k k' : Nat} {a : α}
    (h : f.run k = (a, k')) : (f >>= g).run k = (g a).run k' := by
  rw [StateT.run_bind, h]
  rfl

/-- Trees that are each rewritten and searched, one after the other: what was found is counted. -/
theorem run_mapM_eq {f : Node → StateM Nat Node} {g : Node → Node} {found : Node → List Node} :
    ∀ {l : List Node}, (∀ c ∈ l, ∀ k, (f c).run k = (g c, k + (found c).length)) → ∀ k,
      (l.mapM f).run k = (l.map g, k + (l.flatMap found).length)
  | [], _, _ => rfl
  | c :: l, h, k => by
    have hc := h c List.mem_cons_self k
    have hl := run_mapM_eq (fun d hd => h d (List.mem_cons_of_mem c hd)) (k + (found c).length)
    rw [List.mapM_cons, run_bind_eq hc, run_bind_eq hl, List.map_cons, List.flatMap_cons, List.length_append,
      ← Nat.add_assoc]
    rfl

theorem run_tally (condition : Node → Bool) (p : Property) (n : Node) (k : Nat) :
    (tally condition p n).run k =
      (annotateIf condition p n, k + if condition n = true then 1 else 0) := by
  unfold tally annotateIf
  cases condition n <;> rfl

/-! ## 1. Every node -/

/-- The walk over every node marks those that satisfy the condition, and counts them. -/
theorem run_walk_tally (condition : Node → Bool) (p : Property) (above : List Node) (n : Node) (k : Nat) :
    (n.walk (tally condition p)).run k =
      (n.mark (adding p fun _ n => condition n) above, k + n.preorder.countP condition) := by
  induction n using induct generalizing above k with
  | node kind properties children ih =>
    have each : ∀ c ∈ children, ∀ k, (c.walk (tally condition p)).run k =
        (c.mark (adding p fun _ n => condition n) (⟨kind, properties, children⟩ :: above),
          k + (c.preorder.filter condition).length) := by
      intro c hc k
      rw [ih c hc, List.countP_eq_length_filter]
    rw [Node.walk, Node.walkAll_eq, run_bind_eq (run_tally condition p _ k), run_bind_eq (run_mapM_eq each _),
      mark_node, foldl_adding, Node.preorder, Node.preorderAll_eq, List.countP_cons,
      List.countP_eq_length_filter, List.filter_flatMap, Nat.add_assoc, Nat.add_comm (List.length _)]
    rfl

/-- The walk over every node marks those that satisfy the condition. -/
theorem walk_annotateIf (condition : Node → Bool) (p : Property) (above : List Node) (n : Node) :
    (n.walk (m := Id) (annotateIf condition p)).run = n.mark (adding p fun _ n => condition n) above := by
  induction n using induct generalizing above with
  | node kind properties children ih =>
    rw [Node.walk, Node.walkAll_eq, Id.run_bind, Id.run_bind, List.idRun_mapM,
      List.map_congr_left fun c hc => ih c hc _, mark_node, foldl_adding]
    rfl

/-! ## 2. The outermost loops -/

/-- The walk over the outermost loops marks the loops with no loop above, and counts them. -/
theorem run_walkOutermost_tally (p : Property) {above : List Node}
    (h : above.any Node.isIteration = false) (n : Node) (k : Nat) :
    (n.walkOutermost (tally (fun _ => true) p)).run k =
      (n.mark (adding p isOutermostLoop) above, k + (n.outermostWhere Node.isIteration).length) := by
  induction n using induct generalizing above k with
  | node kind properties children ih =>
    have here : isOutermostLoop above ⟨kind, properties, children⟩ = kind.isIteration := by
      rw [isOutermostLoop, h]
      exact Bool.and_true _
    rw [Node.walkOutermost, mark_node, foldl_adding, Node.outermostWhere, here]
    cases hk : kind.isIteration with
    | true =>
      -- Everything further down has this loop above it.
      have below : children.map (mark (adding p isOutermostLoop) (⟨kind, properties, children⟩ :: above)) =
          children := by
        refine Node.map_mark_eq_self (P := fun above => above.any Node.isIteration = true)
          (fun above n ha => ?_) (fun above n ha => ?_) ?_ children
        · rw [adding, isOutermostLoop, ha, Bool.not_true, Bool.and_false]
          rfl
        · rw [List.any_cons, ha, Bool.or_true]
        · rw [List.any_cons, show Node.isIteration ⟨kind, properties, children⟩ = true from hk, Bool.true_or]
      rw [if_pos rfl, run_bind_eq (run_tally _ p _ k), below]
      rw [if_pos (show Node.isIteration ⟨kind, properties, children⟩ = true from hk)]
      rfl
    | false =>
      have below : ((⟨kind, properties, children⟩ : Node) :: above).any Node.isIteration = false := by
        rw [List.any_cons, h, Bool.or_false]
        exact hk
      have hc := run_mapM_eq fun c hc k => ih c hc below k
      have no : ¬ Node.isIteration ⟨kind, properties, children⟩ = true := by
        rw [Node.isIteration, hk]
        exact Bool.false_ne_true
      rw [if_neg Bool.false_ne_true, if_neg no, Node.walkOutermostAll_eq, run_bind_eq (hc k),
        Node.outermostWhereAll_eq]
      rfl

/-! ## 3. The innermost loops -/

/-- Marking moves no loop. -/
theorem anyContainsIteration_map_mark {rule : Rule} (keeps : rule.Keeps) (above l : List Node) :
    Node.anyContainsIteration (l.map (mark rule above)) = Node.anyContainsIteration l := by
  rw [Node.anyContainsIteration_eq, Node.anyContainsIteration_eq]
  refine Node.seen_containsIteration.any ?_
  rw [List.map_map]
  exact List.map_congr_left fun n _ => Node.skeleton_mark keeps above n

/-- The walk over the innermost loops marks those of them that may run in parallel.  It shows a loop with
    its children already marked, which changes nothing that the condition looks at. -/
theorem walkInnermost_annotateIf {p : Property} (hp : p ≠ .sequential) (above : List Node) (n : Node) :
    (n.walkInnermost (m := Id) (annotateIf Node.isParallelizable p)).run =
      n.mark (adding p fun _ n => n.isParallelizable && n.isInnermost) above := by
  induction n using induct generalizing above with
  | node kind properties children ih =>
    have hc : Id.run (children.mapM (Node.walkInnermost (m := Id) (annotateIf Node.isParallelizable p))) =
        children.map (mark (adding p fun _ n => n.isParallelizable && n.isInnermost)
          (⟨kind, properties, children⟩ :: above)) := by
      rw [List.idRun_mapM, List.map_congr_left fun c hc => ih c hc _]
    have keeps : Rule.Keeps (adding p fun _ n => n.isParallelizable && n.isInnermost) := keeps_adding hp
    have loops := anyContainsIteration_map_mark keeps (⟨kind, properties, children⟩ :: above) children
    rw [Node.walkInnermost, Node.walkInnermostAll_eq, Id.run_bind, hc, loops, mark_node, foldl_adding]
    have inner : Node.isInnermost ⟨kind, properties, children⟩ = !Node.anyContainsIteration children := rfl
    have candidate : Node.isParallelizable ⟨kind, properties, children⟩ =
      (kind.isIteration && !Node.hasProperty ⟨kind, properties, children⟩ .sequential) := rfl
    rw [inner]
    cases hk : kind.isIteration with
    | true =>
      cases hi : Node.anyContainsIteration children with
      | true =>
        rw [Bool.not_true, Bool.and_false, Bool.and_false, if_neg Bool.false_ne_true,
          if_neg Bool.false_ne_true]
        rfl
      | false =>
        rw [Bool.not_false, Bool.and_true, Bool.and_true, if_pos rfl]
        rfl
    | false =>
      rw [candidate, hk, Bool.false_and, Bool.false_and, Bool.false_and, if_neg Bool.false_ne_true,
        if_neg Bool.false_ne_true]
      rfl

/-! ## 4. Loops that may run in parallel -/

/-- Below a loop that may run in parallel no loop is outermost parallel. -/
theorem isOutermostParallel_eq_false {above : List Node} (h : above.any Node.isParallelizable = true)
    (n : Node) : isOutermostParallel above n = false := by
  rw [isOutermostParallel, h, Bool.not_true, Bool.and_false]

/-- What is directly below has a loop above that may run in parallel. -/
theorem any_of_isDirectlyBelow : ∀ {above : List Node}, isDirectlyBelow above = true →
    above.any Node.isParallelizable = true
  | a :: above, h => by
    rw [isDirectlyBelow] at h
    rw [List.any_cons]
    split at h
    · obtain ⟨ha, -⟩ := Bool.and_eq_true_iff.1 h
      rw [ha, Bool.true_or]
    · rw [any_of_isDirectlyBelow h, Bool.or_true]

/-- Where a loop above may run in parallel, `openmp` has nothing to add, and `openmp-nested` only directly
    below an outermost parallel loop. -/
theorem openmpRule_of_any {nested : Bool} {above : List Node} (h : above.any Node.isParallelizable = true)
    (n : Node) : (openmpEffect nested).rule above n =
      adding .parallelNested (fun above n => nested && n.isParallelizable && isDirectlyBelow above)
        above n := by
  show adding _ _ above n ++ _ = _
  rw [adding, isOutermostParallel_eq_false h, if_neg Bool.false_ne_true, List.nil_append]

/-- Marking stops at the loops that stand directly below an outermost parallel loop. -/
theorem map_mark_openmp_eq_self (nested : Bool) {above : List Node}
    (h : above.any Node.isParallelizable = true ∧ (nested = true → isDirectlyBelow above = false))
    (l : List Node) : l.map (mark (openmpEffect nested).rule above) = l := by
  refine Node.map_mark_eq_self
    (P := fun above => above.any Node.isParallelizable = true ∧
      (nested = true → isDirectlyBelow above = false)) ?_ ?_ h l
  · rintro above n ⟨hany, hbelow⟩
    rw [openmpRule_of_any hany, adding]
    cases nested with
    | false => rfl
    | true => rw [hbelow rfl, Bool.and_false, if_neg Bool.false_ne_true]
  · rintro above n ⟨hany, hbelow⟩
    refine ⟨by rw [List.any_cons, hany, Bool.or_true], fun hn => ?_⟩
    rw [isDirectlyBelow, isOutermostParallel_eq_false hany, hbelow hn, ite_self]

/-- The walk over the outermost loops marks the loops directly below an outermost parallel loop. -/
theorem walkOutermost_annotateIf {above : List Node} (h : isDirectlyBelow above = true) (n : Node) :
    (n.walkOutermost (m := Id) (annotateIf Node.isParallelizable .parallelNested)).run =
      n.mark (openmpEffect true).rule above := by
  induction n using induct generalizing above with
  | node kind properties children ih =>
    have hany := any_of_isDirectlyBelow h
    rw [Node.walkOutermost, mark_node, openmpRule_of_any hany, foldl_adding, h, Bool.and_true, Bool.true_and]
    cases hk : kind.isIteration with
    | true =>
      have below : (⟨kind, properties, children⟩ :: above : List Node).any Node.isParallelizable = true ∧
          (true = true → isDirectlyBelow (⟨kind, properties, children⟩ :: above) = false) := by
        refine ⟨by rw [List.any_cons, hany, Bool.or_true], fun _ => ?_⟩
        rw [isDirectlyBelow, if_pos (show Node.isIteration ⟨kind, properties, children⟩ = true from hk),
          isOutermostParallel_eq_false hany]
      rw [if_pos rfl, map_mark_openmp_eq_self true below]
      rfl
    | false =>
      have hn : Node.isIteration ⟨kind, properties, children⟩ = false := hk
      have below : isDirectlyBelow (⟨kind, properties, children⟩ :: above) = true := by
        rw [isDirectlyBelow, hn, if_neg Bool.false_ne_true, h]
      have hp : Node.isParallelizable ⟨kind, properties, children⟩ = false := by
        rw [Node.isParallelizable, hn, Bool.false_and]
      rw [if_neg Bool.false_ne_true, hp, if_neg Bool.false_ne_true, Node.walkOutermostAll_eq, Id.run_bind,
        List.idRun_mapM, List.map_congr_left fun c hc => ih c hc below]
      rfl

theorem markParallelAll_eq {nested : Bool} {g : Node → Node} {found : Node → List Node} {l : List Node}
    (h : ∀ c ∈ l, markParallel nested c = (g c, (found c).length)) :
    markParallelAll nested l = (l.map g, (l.flatMap found).length) := by
  induction l with
  | nil => rfl
  | cons n rest ih =>
    have ih := ih fun c hc => h c (List.mem_cons_of_mem n hc)
    rw [markParallelAll, h n List.mem_cons_self, ih, List.map_cons, List.flatMap_cons, List.length_append]

/-- The outermost loops that may run in parallel are marked and counted, and with `nested` the loops
    directly below them are marked as well. -/
theorem markParallel_eq (nested : Bool) {above : List Node}
    (h : above.any Node.isParallelizable = false) (n : Node) :
    markParallel nested n =
      (n.mark (openmpEffect nested).rule above, (n.outermostWhere Node.isParallelizable).length) := by
  induction n using induct generalizing above with
  | node kind properties children ih =>
    have outside : isDirectlyBelow above = false :=
      Bool.eq_false_iff.2 fun hd => Bool.false_ne_true (h ▸ any_of_isDirectlyBelow hd)
    have outermost : isOutermostParallel above ⟨kind, properties, children⟩ =
        Node.isParallelizable ⟨kind, properties, children⟩ := by
      rw [isOutermostParallel, h, Bool.not_false, Bool.and_true]
    have rule : ((openmpEffect nested).rule above ⟨kind, properties, children⟩).foldl SortedSet.insert
        properties = if Node.isParallelizable ⟨kind, properties, children⟩ then properties.insert .parallel
          else properties := by
      show (adding _ _ above _ ++ adding _ _ above _).foldl _ _ = _
      rw [List.foldl_append, foldl_adding, foldl_adding, outside, outermost, Bool.and_false,
        if_neg Bool.false_ne_true]
    rw [markParallel, mark_node, rule, Node.outermostWhere, Node.outermostWhereAll_eq]
    cases hp : Node.isParallelizable ⟨kind, properties, children⟩ with
    | true =>
      have any : (⟨kind, properties, children⟩ :: above : List Node).any Node.isParallelizable = true := by
        rw [List.any_cons, hp, Bool.true_or]
      have loop : Node.isIteration ⟨kind, properties, children⟩ = true := (Bool.and_eq_true_iff.1 hp).1
      have below : isDirectlyBelow (⟨kind, properties, children⟩ :: above) = true := by
        rw [isDirectlyBelow, if_pos loop, outermost, hp]
      rw [if_pos rfl, if_pos rfl, if_pos rfl]
      cases nested with
      | false =>
        rw [map_mark_openmp_eq_self false ⟨any, fun no => absurd no Bool.false_ne_true⟩]
        rfl
      | true =>
        have marked : markNested children =
            children.map (mark (openmpEffect true).rule (⟨kind, properties, children⟩ :: above)) := by
          rw [markNested, Node.walkOutermostAll_eq, List.idRun_mapM]
          exact List.map_congr_left fun c _ => walkOutermost_annotateIf below c
        rw [if_pos rfl, marked]
        rfl
    | false =>
      have below : (⟨kind, properties, children⟩ :: above : List Node).any Node.isParallelizable = false := by
        rw [List.any_cons, hp, h, Bool.or_false]
      rw [if_neg Bool.false_ne_true, if_neg Bool.false_ne_true, if_neg Bool.false_ne_true,
        markParallelAll_eq fun c hc => ih c hc below]

/-! ## What a pass of the library does -/

/-- The complaint of the pass of a name: only `blocking` has one, about too many levels. -/
def refusal? (ctx : Context) (name : String) : Option Failure :=
  if name = "blocking" ∧ maxBlockLevels < ctx.blockLevels.toNat then some (tooManyLevels ctx.blockLevels)
  else none

theorem includeIf_eq {count : Nat} {headers : List String} {condition : Node → Bool} {root root' : Node}
    {includes : SortedSet String} (h : 0 < count ↔ root.preorder.any condition = true) :
    includeIf count headers ⟨root', includes⟩ =
      ⟨root', (needing headers condition root).foldl SortedSet.insert includes⟩ := by
  have grow : ∀ (l : List String) (s : SortedSet String),
      l.foldl TranslationUnit.addInclude ⟨root', s⟩ = ⟨root', l.foldl SortedSet.insert s⟩ := by
    intro l
    induction l with
    | nil => intro s; rfl
    | cons x l ih => intro s; exact ih (s.insert x)
  unfold includeIf needing
  by_cases hc : 0 < count
  · rw [if_pos hc, if_pos (h.1 hc), grow]
  · rw [if_neg hc, if_neg fun ha => hc (h.2 ha)]
    rfl

theorem run_denormals (ctx : Context) (u : TranslationUnit) :
    denormals.run ctx u = .ok (denormalsEffect.apply u) := by
  have walk := run_walk_tally (fun n => n.kind.isCallable) .flushDenormals [] u.root 0
  have some : 0 < 0 + u.root.preorder.countP (fun n => n.kind.isCallable) ↔
      u.root.preorder.any (fun n => n.kind.isCallable) = true := by
    rw [Nat.zero_add, List.countP_pos_iff, List.any_eq_true]
  unfold denormals
  simp only [walk]
  rw [includeIf_eq some]
  rfl

/-- A rule that is switched off marks nothing, and one that is switched on marks as if it had no switch. -/
theorem mark_adding_switch (p : Property) (on : Bool) (condition : Node → Bool) (n : Node) :
    n.mark (adding p fun _ n => on && condition n) [] =
      if on then n.mark (adding p fun _ n => condition n) [] else n := by
  cases on with
  | true => rfl
  | false => exact Node.mark_eq_self (P := fun _ => True) (fun _ _ _ => rfl) (fun _ _ _ => trivial) trivial n

theorem run_simd (ctx : Context) (u : TranslationUnit) :
    simd.run ctx u = .ok ((simdEffect ctx).apply u) := by
  have walk := walkInnermost_annotateIf (p := .vectorized) (by decide) [] u.root
  show (if ctx.platform.vectorBytes = 0 then _ else _) =
    Except.ok (TranslationUnit.mk (mark (adding _ fun _ _ => _ && _) [] u.root) u.includes)
  rw [mark_adding_switch, walk]
  by_cases h : ctx.platform.vectorBytes = 0
  · rw [if_pos h, if_neg (by simp [h])]
  · rw [if_neg h, if_pos (by simp [h])]

theorem run_blocking (ctx : Context) (u : TranslationUnit) :
    blocking.run ctx u =
      if maxBlockLevels < ctx.blockLevels.toNat then .error (tooManyLevels ctx.blockLevels)
      else .ok ((blockingEffect ctx).apply u) := by
  have walk := walk_annotateIf (isBlockable ctx.options.blockinner) (.blocked ctx.blockLevels) [] u.root
  show (if _ then _ else if ctx.blockLevels = 0 then _ else _) = if _ then _ else
    Except.ok (TranslationUnit.mk (mark (adding _ fun _ _ => _ && _) [] u.root) u.includes)
  rw [mark_adding_switch, ← walk]
  congr 1
  by_cases h : ctx.blockLevels = 0
  · rw [if_pos h, if_neg (by simp [h])]
  · rw [if_neg h, if_pos (by simp [h])]

theorem run_openmp (nested : Bool) (ctx : Context) (u : TranslationUnit) :
    (openmp nested).run ctx u = .ok ((openmpEffect nested).apply u) := by
  have top : ([] : List Node).any Node.isParallelizable = false := rfl
  unfold openmp
  simp only [markParallel_eq nested top u.root]
  rw [includeIf_eq (Node.outermostWhere_pos u.root)]
  rfl

theorem run_mpi (ctx : Context) (u : TranslationUnit) : mpi.run ctx u = .ok (mpiEffect.apply u) := by
  have top : ([] : List Node).any Node.isIteration = false := rfl
  unfold mpi
  simp only [run_walkOutermost_tally .distributed top u.root 0, Nat.zero_add]
  rw [includeIf_eq (Node.outermostWhere_pos u.root)]
  rfl

/-- **A pass of the library performs its effect, or refuses for a reason that no tree has a part in.** -/
theorem run_eq {pass : Pass} (h : pass ∈ Library.processor.passes) (ctx : Context) (u : TranslationUnit) :
    pass.run ctx u =
      match refusal? ctx pass.name with
      | some failure => .error failure
      | none => .ok ((effect ctx pass.name).apply u) := by
  have six : Library.processor.passes = [denormals, simd, blocking, openmp false, openmp true, mpi] := rfl
  have others : ∀ name : String, name ≠ "blocking" → refusal? ctx name = none :=
    fun name hname => if_neg fun hb => hname hb.1
  rw [six] at h
  simp only [List.mem_cons, List.not_mem_nil, or_false] at h
  rcases h with rfl | rfl | rfl | rfl | rfl | rfl
  · rw [others _ (by decide), run_denormals]; rfl
  · rw [others _ (by decide), run_simd]; rfl
  · rw [run_blocking, refusal?]
    by_cases hl : maxBlockLevels < ctx.blockLevels.toNat
    · rw [if_pos hl, if_pos ⟨rfl, hl⟩]
    · rw [if_neg hl, if_neg fun hb => hl hb.2]
      rfl
  · rw [others _ (by decide), run_openmp]; rfl
  · rw [others _ (by decide), run_openmp]; rfl
  · rw [others _ (by decide), run_mpi]; rfl

end Pass

end LoopLowering
