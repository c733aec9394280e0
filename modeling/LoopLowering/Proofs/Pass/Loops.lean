/-
  Which loops the passes annotate.

  1.  ANNOTATED TREES.  A tree is annotated as a condition says if each place of it carries what the place
      carried before and what the condition says of the place, and nothing else is different.  A tree marked
      by a rule is annotated as the rule says (`annotated_mark`).

  2.  LOOPS.  What the passes ask of a place is said here by the nodes above it and below it alone: a loop is
      INDEPENDENT if it carries no dependence, OUTERMOST INDEPENDENT if no loop above it is, and a place is
      DIRECTLY INSIDE if the nearest loop above it is outermost independent.  The searches that the rules of
      the passes make come to the same (`isDirectlyBelow_iff`).

  3.  SHARED MEMORY.  `openmp` finds the outermost independent loops, `openmp-nested` also those directly
      inside (`run_openmp_annotated`).  What it counts are the places of the first kind: none is below
      another, so a walk that stops at each of them meets them all (`length_outermostWhere`).

  4.  VECTORS AND BLOCKS.  `simd` takes the independent loops that hold no loop and `blocking` those that do,
      so the two share out all independent loops (`simd_blocking_annotated`).
-/
import LoopLowering.Proofs.Pass.Performing
import LoopLowering.Proofs.Tree.Place

namespace LoopLowering

namespace Node

/-! ## 1. Annotated trees -/

/-- A node and what became of it when annotations were added. -/
structure Gains (added : Property → Prop) (n n' : Node) : Prop where
  /-- It is of the same kind. -/
  kind : n'.kind = n.kind
  /-- It has as many children. -/
  arity : n'.children.length = n.children.length
  /-- It carries what it carried, and what was added. -/
  carries : ∀ q, q ∈ n'.properties ↔ q ∈ n.properties ∨ added q

/-- Each place has gained what `added` says of it, told from the nodes above it and the node there. -/
def Annotated (added : List Node → Node → Property → Prop) (root root' : Node) : Prop :=
  ∀ path above n, place? [] root path = some (above, n) →
    ∃ above' n', place? [] root' path = some (above', n') ∧ Gains (added above n) n n'

/-- A marked tree is annotated as the rule says. -/
theorem annotated_mark {rule : Rule} {added : List Node → Node → Property → Prop}
    (agree : ∀ above n q, q ∈ rule above n ↔ added above n q) (root : Node) :
    Annotated added root (mark rule [] root) := by
  intro path above n here
  have moved := place?_mark rule path [] root
  rw [here] at moved
  refine ⟨_, _, moved, kind_mark rule above n, ?_, fun q => ?_⟩
  · cases n
    rw [mark_node, List.length_map]
  · rw [mem_mark, agree]

/-! ## 2. Loops -/

/-- A loop that carries no dependence. -/
def Independent (n : Node) : Prop := n.isIteration = true ∧ .sequential ∉ n.properties

instance (n : Node) : Decidable n.Independent := inferInstanceAs (Decidable (_ ∧ _))

/-- An independent loop with no independent loop above it. -/
def OutermostIndependent (above : List Node) (n : Node) : Prop := n.Independent ∧ ∀ a ∈ above, ¬ a.Independent

instance (above : List Node) (n : Node) : Decidable (OutermostIndependent above n) :=
  inferInstanceAs (Decidable (_ ∧ _))

/-- The nearest loop of the nodes above is an outermost independent one. -/
def DirectlyInside (above : List Node) : Prop :=
  ∃ inner loop outer, above = inner ++ loop :: outer ∧ (∀ a ∈ inner, a.isIteration = false) ∧
    OutermostIndependent outer loop

/-- Some loop stands below the node. -/
def HoldsLoop (n : Node) : Prop := ∃ c ∈ n.children, ∃ m ∈ c.preorder, m.isIteration = true

theorem isParallelizable_iff {n : Node} : n.isParallelizable = true ↔ n.Independent := by
  rw [isParallelizable, Bool.and_eq_true, Bool.not_eq_true', ← Bool.not_eq_true, hasProperty_iff]
  rfl

theorem isInnermost_iff_not_holdsLoop {n : Node} : n.isInnermost = true ↔ ¬ n.HoldsLoop := by
  rw [isInnermost_iff, HoldsLoop]
  simp only [not_exists, not_and, Bool.not_eq_true]

end Node

namespace Pass

open Node (Rule place? Annotated Independent OutermostIndependent DirectlyInside HoldsLoop placed placedAll_eq induct
  annotated_mark isParallelizable_iff isInnermost_iff_not_holdsLoop)

theorem isOutermostParallel_iff {above : List Node} {n : Node} :
    isOutermostParallel above n = true ↔ OutermostIndependent above n := by
  rw [isOutermostParallel, Bool.and_eq_true, isParallelizable_iff, Bool.not_eq_true', List.any_eq_false]
  simp only [isParallelizable_iff]
  rfl

/-- Going up to the nearest loop decides whether a place is directly inside. -/
theorem isDirectlyBelow_iff {above : List Node} : isDirectlyBelow above = true ↔ DirectlyInside above := by
  induction above with
  | nil =>
    constructor
    · intro below
      cases below
    · rintro ⟨inner, loop, outer, split, -⟩
      cases inner <;> cases split
  | cons a above ih =>
    rw [isDirectlyBelow]
    cases kind : a.isIteration with
    | true =>
      rw [if_pos rfl, isOutermostParallel_iff]
      constructor
      · exact fun outermost => ⟨[], a, above, rfl, fun _ hb => absurd hb List.not_mem_nil, outermost⟩
      · rintro ⟨inner, loop, outer, split, between, outermost⟩
        cases inner with
        | nil =>
          obtain ⟨rfl, rfl⟩ := List.cons.inj split
          exact outermost
        | cons b inner =>
          -- The loop at hand would stand between the place and its nearest loop.
          obtain ⟨rfl, -⟩ := List.cons.inj split
          have noLoop := between a List.mem_cons_self
          rw [kind] at noLoop
          cases noLoop
    | false =>
      rw [if_neg Bool.false_ne_true, ih]
      constructor
      · rintro ⟨inner, loop, outer, rfl, between, outermost⟩
        refine ⟨a :: inner, loop, outer, rfl, fun b hb => ?_, outermost⟩
        rcases List.mem_cons.1 hb with rfl | hb
        · exact kind
        · exact between b hb
      · rintro ⟨inner, loop, outer, split, between, outermost⟩
        cases inner with
        | nil =>
          obtain ⟨rfl, rfl⟩ := List.cons.inj split
          have noLoop := outermost.1.1
          rw [kind] at noLoop
          cases noLoop
        | cons b inner =>
          obtain ⟨rfl, rfl⟩ := List.cons.inj split
          exact ⟨inner, loop, outer, rfl, fun c hc => between c (List.mem_cons_of_mem a hc), outermost⟩

/-! ## 3. Shared memory -/

/-- A walk that stops at each node that satisfies a condition meets the places that have no such node above
    them. -/
theorem length_outermostWhere {condition : Node → Bool} {above : List Node} (h : above.any condition = false)
    (n : Node) : (n.outermostWhere condition).length =
      (placed above n).countP fun place => condition place.2 && !place.1.any condition := by
  induction n using induct generalizing above with
  | node kind properties children ih =>
    rw [Node.outermostWhere, Node.outermostWhereAll_eq, placed, placedAll_eq, List.countP_cons, h,
      Bool.not_false, Bool.and_true]
    cases here : condition ⟨kind, properties, children⟩ with
    | true =>
      -- The node is above everything further down.
      have below : (children.flatMap (placed (⟨kind, properties, children⟩ :: above))).countP
          (fun place => condition place.2 && !place.1.any condition) = 0 := by
        rw [List.countP_eq_zero]
        intro place hplace
        obtain ⟨c, -, inside⟩ := List.mem_flatMap.1 hplace
        have covered : place.1.any condition = true :=
          List.any_eq_true.2 ⟨_, Node.mem_of_mem_placed inside List.mem_cons_self, here⟩
        rw [covered, Bool.not_true, Bool.and_false]
        exact Bool.false_ne_true
      rw [if_pos rfl, if_pos rfl, below]
      rfl
    | false =>
      have below : (⟨kind, properties, children⟩ :: above : List Node).any condition = false := by
        rw [List.any_cons, here, h, Bool.or_false]
      rw [if_neg Bool.false_ne_true, if_neg Bool.false_ne_true, Nat.add_zero, List.length_flatMap,
        List.countP_flatMap, List.map_congr_left fun c hc => ih c hc below]
      rfl

/-- What `openmp` counts are the outermost independent loops. -/
theorem countP_outermostIndependent (root : Node) :
    (root.outermostWhere Node.isParallelizable).length =
      (placed [] root).countP fun place => decide (OutermostIndependent place.1 place.2) := by
  have top : ([] : List Node).any Node.isParallelizable = false := rfl
  rw [length_outermostWhere top]
  refine List.countP_congr fun place _ => ?_
  rw [decide_eq_true_eq, ← isOutermostParallel_iff]
  rfl

/-- The headers that an effect needs are included if some node calls for them. -/
theorem mem_includes_of_needing {header : String} {headers : List String} {condition : Node → Bool} {root : Node}
    {includes : SortedSet String} :
    header ∈ (needing headers condition root).foldl SortedSet.insert includes ↔
      header ∈ includes ∨ header ∈ headers ∧ ∃ m ∈ root.preorder, condition m = true := by
  rw [SortedSet.mem_foldl_insert, mem_needing]

/-- **Which loops run in parallel.**  The pass always succeeds.  It marks the outermost independent loops, and
    the nested pass marks the independent loops directly inside these too; it includes its header if there is
    any independent loop, and changes nothing else.  Its count is the number of loops of the first kind. -/
theorem run_openmp_annotated (nested : Bool) (ctx : Context) (u : TranslationUnit) :
    ∃ u', (openmp nested).run ctx u = .ok u' ∧
      u.root.Annotated (fun above n q => q = .parallel ∧ OutermostIndependent above n ∨
        q = .parallelNested ∧ nested = true ∧ n.Independent ∧ DirectlyInside above) u'.root ∧
      (∀ header, header ∈ u'.includes ↔
        header ∈ u.includes ∨ header = "omp.h" ∧ ∃ m ∈ u.root.preorder, m.Independent) ∧
      markParallel nested u.root =
        (u'.root, (placed [] u.root).countP fun place => decide (OutermostIndependent place.1 place.2)) := by
  have top : ([] : List Node).any Node.isParallelizable = false := rfl
  refine ⟨_, run_openmp nested ctx u, annotated_mark (fun above n q => ?_) u.root, fun header => ?_, ?_⟩
  · show q ∈ adding _ _ above n ++ adding _ _ above n ↔ _
    rw [List.mem_append, mem_adding, mem_adding, isOutermostParallel_iff, Bool.and_eq_true, Bool.and_eq_true,
      isParallelizable_iff, isDirectlyBelow_iff, and_assoc]
  · show header ∈ (needing _ _ u.root).foldl SortedSet.insert u.includes ↔ _
    rw [mem_includes_of_needing, List.mem_singleton]
    simp only [isParallelizable_iff]
  · rw [markParallel_eq nested top, countP_outermostIndependent]
    rfl

/-! ## 4. Vectors and blocks -/

theorem mem_simdEffect {ctx : Context} {above : List Node} {n : Node} {q : Property} :
    q ∈ (simdEffect ctx).rule above n ↔
      q = .vectorized ∧ ctx.platform.vectorBytes ≠ 0 ∧ n.Independent ∧ ¬ n.HoldsLoop := by
  unfold simdEffect
  rw [mem_adding, Bool.and_eq_true, Bool.and_eq_true, isParallelizable_iff, isInnermost_iff_not_holdsLoop,
    decide_eq_true_eq]

theorem mem_blockingEffect {ctx : Context} {above : List Node} {n : Node} {q : Property} :
    q ∈ (blockingEffect ctx).rule above n ↔ q = .blocked ctx.blockLevels ∧ ctx.blockLevels ≠ 0 ∧
      n.Independent ∧ (n.HoldsLoop ∨ ctx.options.blockinner = true) := by
  unfold blockingEffect
  rw [mem_adding, Bool.and_eq_true, isBlockable, Bool.and_eq_true, isParallelizable_iff, Bool.or_eq_true,
    Bool.not_eq_true', ← Bool.not_eq_true, isInnermost_iff_not_holdsLoop, Classical.not_not, decide_eq_true_eq,
    or_comm]

theorem run_blocking_ok {ctx : Context} (few : ctx.blockLevels.toNat ≤ maxBlockLevels) (u : TranslationUnit) :
    blocking.run ctx u = .ok ((blockingEffect ctx).apply u) := by
  rw [run_blocking, if_neg (Nat.not_lt.2 few)]

/-- What both passes do together, in either order. -/
def sharing (ctx : Context) : Effect := .all [simdEffect ctx, blockingEffect ctx]

theorem run_simd_run_blocking {ctx : Context} (few : ctx.blockLevels.toNat ≤ maxBlockLevels)
    (u : TranslationUnit) :
    (simd.run ctx u >>= blocking.run ctx) = .ok ((sharing ctx).apply u) ∧
    (blocking.run ctx u >>= simd.run ctx) = .ok ((sharing ctx).apply u) := by
  have stable : ∀ e ∈ [simdEffect ctx, blockingEffect ctx], e.Stable := by
    intro e he
    simp only [List.mem_cons, List.not_mem_nil, or_false] at he
    rcases he with rfl | rfl
    · exact stable_effect ctx "simd"
    · exact stable_effect ctx "blocking"
  have reversed : ∀ e, e ∈ [simdEffect ctx, blockingEffect ctx] ↔ e ∈ [blockingEffect ctx, simdEffect ctx] := by
    intro e
    simp only [List.mem_cons, List.not_mem_nil, or_false]
    exact or_comm
  constructor
  · rw [sharing, Effect.apply_all stable, run_simd]
    exact run_blocking_ok few _
  · rw [sharing, Effect.apply_all_congr reversed, Effect.apply_all fun e he => stable e ((reversed e).2 he),
      run_blocking_ok few]
    exact run_simd ctx _

/-- Where there are vectors and blocks, and innermost loops are left to vectors, an independent loop gets the one
    or the other. -/
theorem mem_sharing {ctx : Context} (outer : ctx.options.blockinner = false) (vectors : ctx.platform.vectorBytes ≠ 0)
    (blocks : ctx.blockLevels ≠ 0) {above : List Node} {n : Node} {q : Property} :
    q ∈ (sharing ctx).rule above n ↔ n.Independent ∧
      (q = .vectorized ∧ ¬ n.HoldsLoop ∨ q = .blocked ctx.blockLevels ∧ n.HoldsLoop) := by
  have either : q ∈ (sharing ctx).rule above n ↔
      q ∈ (simdEffect ctx).rule above n ∨ q ∈ (blockingEffect ctx).rule above n := by
    unfold sharing Effect.all
    dsimp only
    rw [List.flatMap_cons, List.flatMap_singleton, List.mem_append]
  rw [either, mem_simdEffect, mem_blockingEffect, outer]
  constructor
  · rintro (⟨rfl, -, independent, innermost⟩ | ⟨rfl, -, independent, holds | inner⟩)
    · exact ⟨independent, Or.inl ⟨rfl, innermost⟩⟩
    · exact ⟨independent, Or.inr ⟨rfl, holds⟩⟩
    · cases inner
  · rintro ⟨independent, ⟨rfl, innermost⟩ | ⟨rfl, holds⟩⟩
    · exact Or.inl ⟨rfl, vectors, independent, innermost⟩
    · exact Or.inr ⟨rfl, blocks, independent, Or.inl holds⟩

/-- **How vectors and blocks share out the loops.**  Vectors are for the independent loops that hold no loop,
    where the platform has vectors; blocks are for those that hold one, or for all independent loops on request,
    unless there are no levels of blocking.  Without that request both passes together, in either order, give
    each independent loop one annotation, and nothing to any other node. -/
theorem simd_blocking_annotated (ctx : Context) (u : TranslationUnit) :
    let levels := ctx.options.blocklevels.getD ctx.platform.blockLevels
    (∃ root', simd.run ctx u = .ok ⟨root', u.includes⟩ ∧
      u.root.Annotated (fun _ n q => q = .vectorized ∧ ctx.platform.vectorBytes ≠ 0 ∧ n.Independent ∧
        ¬ n.HoldsLoop) root') ∧
    (levels.toNat ≤ 4 → ∃ root', blocking.run ctx u = .ok ⟨root', u.includes⟩ ∧
      u.root.Annotated (fun _ n q => q = .blocked levels ∧ levels ≠ 0 ∧ n.Independent ∧
        (n.HoldsLoop ∨ ctx.options.blockinner = true)) root') ∧
    (ctx.options.blockinner = false → ctx.platform.vectorBytes ≠ 0 → levels ≠ 0 → levels.toNat ≤ 4 →
      ∃ root', (simd.run ctx u >>= blocking.run ctx) = .ok ⟨root', u.includes⟩ ∧
        (blocking.run ctx u >>= simd.run ctx) = .ok ⟨root', u.includes⟩ ∧
        u.root.Annotated (fun _ n q => n.Independent ∧
          (q = .vectorized ∧ ¬ n.HoldsLoop ∨ q = .blocked levels ∧ n.HoldsLoop)) root' ∧
        ∀ path above n, place? [] u.root path = some (above, n) →
          .vectorized ∉ n.properties → .blocked levels ∉ n.properties →
          ∃ above' n', place? [] root' path = some (above', n') ∧
            (n.Independent → (.vectorized ∈ n'.properties ↔ .blocked levels ∉ n'.properties)) ∧
            (¬ n.Independent → n'.properties = n.properties)) := by
  intro levels
  refine ⟨⟨_, run_simd ctx u, annotated_mark (fun _ _ _ => mem_simdEffect) u.root⟩,
    fun few => ⟨_, run_blocking_ok few u, annotated_mark (fun _ _ _ => mem_blockingEffect) u.root⟩,
    fun outer vectors blocks few => ?_⟩
  obtain ⟨there, back⟩ := run_simd_run_blocking few u
  have shared : u.root.Annotated (fun _ n q => n.Independent ∧
      (q = .vectorized ∧ ¬ n.HoldsLoop ∨ q = .blocked levels ∧ n.HoldsLoop)) ((sharing ctx).apply u).root :=
    annotated_mark (fun _ _ _ => mem_sharing outer vectors blocks) u.root
  refine ⟨_, there, back, shared, fun path above n here noVectors noBlocks => ?_⟩
  obtain ⟨above', n', place, gains⟩ := shared path above n here
  refine ⟨above', n', place, fun independent => ?_, fun dependent => SortedSet.ext fun q => ?_⟩
  · rw [gains.carries, gains.carries]
    by_cases holds : n.HoldsLoop
    · simp [noVectors, noBlocks, independent, holds]
    · simp [noVectors, noBlocks, independent, holds]
  · rw [gains.carries]
    exact or_iff_left fun added => dependent added.1

/-- A loop inside a loop inside one that carries a dependence, on a processor with vectors and two levels of
    blocking: the middle loop is tiled, the innermost one runs in vector registers, the outermost one does
    neither. -/
theorem simd_blocking_annotated_nest :
    let inner : Node := .iteration "y" [.expression "u = 0"]
    let middle : Node := .iteration "x" [inner]
    let outermost : Node := (Node.iteration "t" [middle]).withProperty .sequential
    let ctx : Context := ⟨{}, .knl⟩
    let u : TranslationUnit := { root := outermost }
    (ctx.options.blocklevels.getD ctx.platform.blockLevels).toNat ≤ 4 ∧ ctx.options.blockinner = false ∧
    ctx.platform.vectorBytes ≠ 0 ∧ ctx.options.blocklevels.getD ctx.platform.blockLevels ≠ 0 ∧
    ∃ root', (simd.run ctx u >>= blocking.run ctx) = .ok ⟨root', u.includes⟩ ∧
      (blocking.run ctx u >>= simd.run ctx) = .ok ⟨root', u.includes⟩ ∧
      ∃ n₁ n₂ n₃ a₁ a₂ a₃, place? [] root' [] = some (a₁, n₁) ∧ place? [] root' [0] = some (a₂, n₂) ∧
        place? [] root' [0, 0] = some (a₃, n₃) ∧ n₁.properties = outermost.properties ∧
        (.blocked 2 ∈ n₂.properties ∧ .vectorized ∉ n₂.properties) ∧
        (.vectorized ∈ n₃.properties ∧ .blocked 2 ∉ n₃.properties) := by
  intro inner middle outermost ctx u
  have few : (ctx.options.blocklevels.getD ctx.platform.blockLevels).toNat ≤ 4 := by decide
  have blocks : ctx.options.blocklevels.getD ctx.platform.blockLevels ≠ 0 := by decide
  have vectors : ctx.platform.vectorBytes ≠ 0 := by decide
  obtain ⟨root', there, back, annotated, alone⟩ := (simd_blocking_annotated ctx u).2.2 rfl vectors blocks few
  obtain ⟨a₁, n₁, place₁, -, same⟩ := alone [] [] outermost rfl (by decide) (by decide)
  obtain ⟨a₂, n₂, place₂, gains₂⟩ := annotated [0] [outermost] middle rfl
  obtain ⟨a₃, n₃, place₃, gains₃⟩ := annotated [0, 0] [middle, outermost] inner rfl
  have holds : middle.HoldsLoop := ⟨inner, List.mem_cons_self, inner, List.mem_cons_self, rfl⟩
  have innermost : ¬ inner.HoldsLoop := isInnermost_iff_not_holdsLoop.1 rfl
  have tiled : .blocked 2 ∈ n₂.properties := (gains₂.carries _).2 (Or.inr ⟨by decide, Or.inr ⟨rfl, holds⟩⟩)
  have scalar : .vectorized ∉ n₂.properties := by
    intro carries
    rcases (gains₂.carries _).1 carries with before | ⟨-, ⟨-, without⟩ | ⟨other, -⟩⟩
    · exact absurd before (by decide)
    · exact without holds
    · cases other
  have vectorized : .vectorized ∈ n₃.properties :=
    (gains₃.carries _).2 (Or.inr ⟨by decide, Or.inl ⟨rfl, innermost⟩⟩)
  have whole : .blocked 2 ∉ n₃.properties := by
    intro carries
    rcases (gains₃.carries _).1 carries with before | ⟨-, ⟨other, -⟩ | ⟨-, holds⟩⟩
    · exact absurd before (by decide)
    · cases other
    · exact innermost holds
  exact ⟨few, rfl, vectors, blocks, root', there, back, n₁, n₂, n₃, a₁, a₂, a₃, place₁, place₂, place₃,
    same (by decide), ⟨tiled, scalar⟩, ⟨vectorized, whole⟩⟩

end Pass

end LoopLowering
