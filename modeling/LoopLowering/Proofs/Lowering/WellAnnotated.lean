/-
  Lowered trees are annotated well.

  1.  WELL ANNOTATED says what a code generator may count on at a place of a lowered tree: on a path one
      loop at most runs in parallel and one at most is divided among processes, nested parallel loops stand
      directly in a parallel one, vectors are for innermost loops, and so on.

  2.  EFFECTS.  Each condition holds of what a sequence of passes leaves of a tree that carries no
      annotation but `sequential`.  Each rests on how an annotation is given: a parallel loop has no loop
      above it that may run in parallel, a divided loop has no loop above it at all, and what stands
      directly below a parallel loop finds it as the nearest loop (`find?_of_isDirectlyBelow`).

  3.  LOWERING.  A lowering that succeeds performs the effects of its pipeline, whatever pipeline that is
      (`unit_of_lower`), so all places of its tree are well annotated (`lower_wellAnnotated`).
-/
import LoopLowering.Proofs.Lowering.Outcome
import LoopLowering.Proofs.Pass.Gains

namespace LoopLowering

open Node (Rule mark place? markPath mem_mark)

/-! ## 1. Well annotated -/

/-- What the annotations of a node must be, told from the nodes above it, the nearest first.  `inner` says
    whether innermost loops are tiled. -/
structure WellAnnotated (inner : Bool) (above : List Node) (n : Node) : Prop where
  /-- One loop of a path runs in parallel. -/
  parallel_once : (n :: above).countP (fun m => m.hasProperty .parallel) ≤ 1
  /-- The nearest loop above a nested parallel loop is parallel. -/
  nested_below : .parallelNested ∈ n.properties →
    ∃ loop, above.find? Node.isIteration = some loop ∧ .parallel ∈ loop.properties
  /-- A loop is parallel or nested parallel. -/
  nested_apart : ¬ (.parallel ∈ n.properties ∧ .parallelNested ∈ n.properties)
  /-- A loop in vector registers holds no loop. -/
  vectorized_innermost : .vectorized ∈ n.properties →
    ∀ c ∈ n.children, ∀ m ∈ c.preorder, m.isIteration = false
  /-- A loop is tiled at one level. -/
  blocked_once : ∀ i j, .blocked i ∈ n.properties → .blocked j ∈ n.properties → i = j
  /-- Unless asked for, no loop in vector registers is tiled. -/
  vectorized_apart : inner = false → ∀ i, ¬ (.vectorized ∈ n.properties ∧ .blocked i ∈ n.properties)
  /-- One loop of a path is divided. -/
  distributed_once : (n :: above).countP (fun m => m.hasProperty .distributed) ≤ 1
  /-- A divided loop is the outermost one. -/
  distributed_outermost : .distributed ∈ n.properties → ∀ a ∈ above, a.isIteration = false
  /-- Callables flush denormal numbers. -/
  flushing : .flushDenormals ∈ n.properties → n.kind.isCallable = true
  /-- All other annotations of passes are on loops. -/
  loops : ∀ p ∈ n.properties, p ≠ .sequential → p ≠ .flushDenormals → n.isIteration = true

namespace Pass

/-! ## 2. Effects -/

section Suits

variable {ctx : Context} {above : List Node} {n : Node}

theorem not_suits_parallelNested (suits : Suits ctx above n .parallel) :
    ¬ Suits ctx above n .parallelNested := by
  rintro ⟨-, below⟩
  have parallelAbove := any_of_isDirectlyBelow below
  exact Bool.false_ne_true ((suits_parallel_iff.1 suits).2.symm.trans parallelAbove)

theorem not_suits_blocked (outer : ctx.options.blockinner = false) (suits : Suits ctx above n .vectorized)
    (levels : UInt32) : ¬ Suits ctx above n (.blocked levels) := by
  rintro ⟨-, -, blockable⟩
  have innermost : n.isInnermost = true := suits.2.2
  rw [isBlockable, outer, innermost, Bool.not_true, Bool.or_false, Bool.and_false] at blockable
  exact Bool.false_ne_true blockable

end Suits

/-- What stands directly below a parallel loop has that loop as the nearest one above. -/
theorem find?_of_isDirectlyBelow {rule : Rule}
    (parallel : ∀ above n, isOutermostParallel above n = true → .parallel ∈ rule above n) :
    ∀ {above : List Node}, isDirectlyBelow above = true →
      ∃ loop, (markPath rule above).find? Node.isIteration = some loop ∧ .parallel ∈ loop.properties
  | a :: above, h => by
    rw [isDirectlyBelow] at h
    rw [markPath]
    cases loop : a.isIteration with
    | true =>
      rw [loop, if_pos rfl] at h
      have still : (mark rule above a).isIteration = true := (Node.isIteration_mark rule above a).trans loop
      exact ⟨mark rule above a, List.find?_cons_of_pos still, mem_mark.2 (Or.inr (parallel above a h))⟩
    | false =>
      rw [loop, if_neg Bool.false_ne_true] at h
      have still : ¬ (mark rule above a).isIteration = true := by
        rw [Node.isIteration_mark, loop]
        exact Bool.false_ne_true
      rw [List.find?_cons_of_neg still]
      exact find?_of_isDirectlyBelow parallel h

/-- **Every place is well annotated** after a sequence of passes on a tree that carries no annotation but
    `sequential`. -/
theorem wellAnnotated_effects {ctx : Context} {names : List String} {root : Node}
    (plain : ∀ m ∈ root.preorder, ∀ p ∈ m.properties, p = .sequential) {path : List Nat} {a : List Node}
    {m : Node} (here : place? [] ((effects ctx names).apply { root }).root path = some (a, m)) :
    WellAnnotated ctx.options.blockinner a m := by
  obtain ⟨above, n, there, rfl, rfl⟩ := Node.of_place?_mark here
  obtain ⟨inside, onPath⟩ := Node.mem_preorder_of_place? there
  have keeps : (effects ctx names).rule.Keeps := (Effect.stable_all fun _ => stable_of_mem).keeps
  have fresh : ∀ p, p ≠ .sequential → ∀ m ∈ n :: above, p ∉ m.properties := by
    intro p hp m hm carries
    rcases List.mem_cons.1 hm with rfl | hm
    · exact hp (plain m inside p carries)
    · exact hp (plain m ((onPath m hm).resolve_right List.not_mem_nil) p carries)
  -- What the node carries now and is not `sequential`, it was given.
  have given : ∀ p, p ≠ .sequential → p ∈ (mark (effects ctx names).rule above n).properties →
      (∃ name ∈ names, name ∈ givers p) ∧ Suits ctx above n p := by
    intro p hp carries
    exact mem_effects.1 ((mem_mark.1 carries).resolve_left (fresh p hp n List.mem_cons_self))
  constructor
  case parallel_once =>
    have alone := fun above n (said : .parallel ∈ (effects ctx names).rule above n) =>
      suits_parallel_iff.1 (mem_effects.1 said).2
    exact Node.countP_markPath_le_one alone (fresh .parallel nofun)
  case distributed_once =>
    have alone := fun above n (said : .distributed ∈ (effects ctx names).rule above n) =>
      suits_distributed_iff.1 (mem_effects.1 said).2
    exact Node.countP_markPath_le_one alone (fresh .distributed nofun)
  case nested_below =>
    intro nested
    obtain ⟨⟨name, hname, gives⟩, -, below⟩ := given .parallelNested nofun nested
    obtain rfl : name = "openmp-nested" := List.mem_singleton.1 gives
    -- The pass that marks nested loops marks the parallel ones too.
    exact find?_of_isDirectlyBelow
      (fun above n outermost => mem_effects.2 ⟨⟨_, hname, by decide⟩, outermost⟩) below
  case nested_apart =>
    rintro ⟨parallel, nested⟩
    exact not_suits_parallelNested (given .parallel nofun parallel).2 (given .parallelNested nofun nested).2
  case vectorized_innermost =>
    intro vectorized
    have innermost : n.isInnermost = true := (given .vectorized nofun vectorized).2.2.2
    have same := Node.seen_isInnermost _ n (Node.skeleton_mark keeps above n)
    exact Node.isInnermost_iff.1 (same.trans innermost)
  case blocked_once =>
    intro i j hi hj
    have first : i = ctx.blockLevels := (given (.blocked i) nofun hi).2.1
    have second : j = ctx.blockLevels := (given (.blocked j) nofun hj).2.1
    exact first.trans second.symm
  case vectorized_apart =>
    rintro outer i ⟨vectorized, blocked⟩
    exact not_suits_blocked outer (given .vectorized nofun vectorized).2 i (given (.blocked i) nofun blocked).2
  case distributed_outermost =>
    intro distributed
    have free := (suits_distributed_iff.1 (given .distributed nofun distributed).2).2
    rw [← Node.any_markPath (effects ctx names).rule, List.any_eq_false] at free
    exact fun b hb => Bool.eq_false_iff.2 (free b hb)
  case flushing =>
    intro flushes
    rw [Node.kind_mark]
    exact (given .flushDenormals nofun flushes).2
  case loops =>
    intro p carries dependent callable
    rw [Node.isIteration_mark]
    exact isIteration_of_suits (given p dependent carries).2 callable

end Pass

namespace Backend

/-! ## 3. Lowering -/

/-- **Lowered trees are annotated well.**  Whatever the platform, the configuration, the request and the
    overrides are, every place of the tree that a lowering makes of a tree without annotations of passes
    satisfies all conditions. -/
theorem lower_wellAnnotated {root : Node}
    (plain : ∀ m ∈ root.preorder, ∀ p ∈ m.properties, p = .sequential)
    (c : Configuration) (elapsed : Nat → Duration) (seconds : Nat → String) (p : Platform)
    (request : Option ModeRequest) (overrides : List Override) {lowered : Lowered}
    (lowers : (Lowerer.lower ⟨registry, c, elapsed, seconds⟩ root p request overrides).result = .ok lowered)
    {path : List Nat} {above : List Node} {n : Node}
    (here : place? [] lowered.run.unit.root path = some (above, n)) :
    WellAnnotated lowered.options.blockinner above n := by
  rw [unit_of_lower lowers] at here
  exact Pass.wellAnnotated_effects plain here

/-- The innermost of three loops, the outermost of which carries a dependence, on a processor with two
    levels of parallelism: it is nested parallel and in vector registers, and the place is well annotated. -/
theorem lower_wellAnnotated_nest :
    let root : Node := .callable "f"
      [(Node.iteration "t" [.iteration "x" [.iteration "y" []]]).withProperty .sequential]
    let overrides : List Override := [("openmp", .bool true), ("mpi", .bool true)]
    (∀ m ∈ root.preorder, ∀ p ∈ m.properties, p = .sequential) ∧
    ∃ lowered above n,
      (Lowerer.lower ⟨registry, {}, fun _ => 0, fun n => toString n⟩ root .knl
        (some (.name "advanced")) overrides).result = .ok lowered ∧
      place? [] lowered.run.unit.root [0, 0, 0] = some (above, n) ∧
      .parallelNested ∈ n.properties ∧ .vectorized ∈ n.properties ∧
      WellAnnotated lowered.options.blockinner above n := by
  intro root overrides
  have plain : ∀ m ∈ root.preorder, ∀ p ∈ m.properties.toList, p = .sequential := by decide
  obtain ⟨lowered, lowers⟩ : ∃ lowered,
      (Lowerer.lower ⟨registry, {}, fun _ => 0, fun n => toString n⟩ root .knl
        (some (.name "advanced")) overrides).result = .ok lowered := ⟨_, rfl⟩
  obtain ⟨above, n, here, nested, vectorized⟩ : ∃ above n,
      place? [] lowered.run.unit.root [0, 0, 0] = some (above, n) ∧
        .parallelNested ∈ n.properties ∧ .vectorized ∈ n.properties := by
    obtain rfl := Except.ok.inj lowers
    exact ⟨_, _, rfl, by decide, by decide⟩
  exact ⟨plain, lowered, above, n, lowers, here, nested, vectorized,
    lower_wellAnnotated plain {} _ _ .knl _ overrides lowers here⟩

end Backend

end LoopLowering
