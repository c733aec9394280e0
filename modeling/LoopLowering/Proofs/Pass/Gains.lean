/-
  What a sequence of passes adds at each place.

  1.  An annotation has its GIVERS, the passes that add it, and a node SUITS it or not, which only the node,
      the nodes above it, the options and the platform decide.  A sequence adds an annotation exactly where
      it suits, provided that a giver is in the sequence (`mem_effects`).

  2.  So what a run leaves at a place is told from what stood there (`place?_apply_effects`), and nothing is
      ever taken away.

  3.  Annotations other than that of callables ask for a loop (`isIteration_of_suits`), and for one without a
      dependence (`isParallelizable_of_suits`), except `distributed`: dividing loops among processes is the
      one step that does not look for dependences (`process_dependent`).
-/
import LoopLowering.Proofs.Pass.Sequence
import LoopLowering.Proofs.Tree.Place

namespace LoopLowering.Pass

open Node (Rule mark place? markPath mem_mark)

/-! ## 1. Givers -/

/-- The passes that add an annotation. -/
def givers : Property → List String
  | .sequential => []
  | .parallel => ["openmp", "openmp-nested"]
  | .parallelNested => ["openmp-nested"]
  | .vectorized => ["simd"]
  | .blocked _ => ["blocking"]
  | .distributed => ["mpi"]
  | .flushDenormals => ["denormals"]

/-- Whether a node suits an annotation, told from the nodes above it. -/
def Suits (ctx : Context) (above : List Node) (n : Node) : Property → Prop
  | .sequential => False
  | .parallel => isOutermostParallel above n = true
  | .parallelNested => n.isParallelizable = true ∧ isDirectlyBelow above = true
  | .vectorized => ctx.platform.vectorBytes ≠ 0 ∧ n.isParallelizable = true ∧ n.isInnermost = true
  | .blocked levels =>
    levels = ctx.blockLevels ∧ ctx.blockLevels ≠ 0 ∧ isBlockable ctx.options.blockinner n = true
  | .distributed => isOutermostLoop above n = true
  | .flushDenormals => n.kind.isCallable = true

/-- A pass adds the annotations that it gives, where they suit. -/
theorem mem_effect {ctx : Context} {name : String} {above : List Node} {n : Node} {p : Property} :
    p ∈ (effect ctx name).rule above n ↔ name ∈ givers p ∧ Suits ctx above n p := by
  unfold effect
  split
  · cases p <;> simp [denormalsEffect, mem_adding, givers, Suits]
  · cases p <;> simp [simdEffect, mem_adding, givers, Suits]
  · cases p <;> simp [blockingEffect, mem_adding, givers, Suits]
  · cases p <;> simp [openmpEffect, mem_adding, givers, Suits]
  · cases p <;> simp [openmpEffect, mem_adding, givers, Suits]
  · cases p <;> simp [mpiEffect, mem_adding, givers, Suits]
  · cases p <;> simp_all [givers]

/-- **A sequence adds an annotation where it suits**, if it has a pass that gives it. -/
theorem mem_effects {ctx : Context} {names : List String} {above : List Node} {n : Node} {p : Property} :
    p ∈ (effects ctx names).rule above n ↔
      (∃ name ∈ names, name ∈ givers p) ∧ Suits ctx above n p := by
  show p ∈ (names.map (effect ctx)).flatMap _ ↔ _
  rw [List.flatMap_map, List.mem_flatMap]
  simp only [mem_effect]
  constructor
  · rintro ⟨name, hname, gives, suits⟩
    exact ⟨⟨name, hname, gives⟩, suits⟩
  · rintro ⟨⟨name, hname, gives⟩, suits⟩
    exact ⟨name, hname, gives, suits⟩

/-! ## 2. Runs -/

/-- What a sequence leaves at a place. -/
theorem place?_apply_effects (ctx : Context) (names : List String) {root : Node} {path : List Nat}
    {above : List Node} {n : Node} (here : place? [] root path = some (above, n)) :
    place? [] ((effects ctx names).apply { root }).root path =
      some (markPath (effects ctx names).rule above, mark (effects ctx names).rule above n) := by
  have moved := Node.place?_mark (effects ctx names).rule path [] root
  rw [here] at moved
  exact moved

/-- A target can only be made of names that the library has. -/
theorem known_of_custom {names : List String} {o : Options} {p : Platform} {t : Target}
    (made : Target.custom names o p Library.processor = .ok t) : ∀ x ∈ names, x ∈ Library.processor.names := by
  cases unknown : names.find? fun x => x ∉ Library.processor.names with
  | none => simpa using List.find?_eq_none.1 unknown
  | some x =>
    rw [Target.custom, Library.resolve_eq_error unknown] at made
    cases made

/-- A run that succeeds leaves the unit that the effects of its passes leave. -/
theorem unit_of_process {names : List String} {o : Options} {p : Platform} {t : Target}
    (made : Target.custom names o p Library.processor = .ok t) {elapsed : Nat → Duration} {root : Node} {run : Run}
    (ran : t.process elapsed root = .ok run) : run.unit = (effects ⟨o, p⟩ names).apply { root } := by
  obtain ⟨same, hsame, runs⟩ := process_custom_eq (known_of_custom made) o p
  obtain rfl : t = same := Except.ok.inj (made.symm.trans hsame)
  rw [runs] at ran
  split at ran
  · cases ran
  · exact congrArg Run.unit (Except.ok.inj ran).symm

/-! ## 3. Loops that carry a dependence -/

/-- All annotations but two ask for a loop that may run in parallel. -/
theorem isParallelizable_of_suits {ctx : Context} {above : List Node} {n : Node} {p : Property}
    (suits : Suits ctx above n p) (distributed : p ≠ .distributed) (callable : p ≠ .flushDenormals) :
    n.isParallelizable = true := by
  cases p with
  | sequential => exact suits.elim
  | parallel => exact (Bool.and_eq_true_iff.1 suits).1
  | parallelNested => exact suits.1
  | vectorized => exact suits.2.1
  | blocked levels => exact (Bool.and_eq_true_iff.1 suits.2.2).1
  | distributed => exact absurd rfl distributed
  | flushDenormals => exact absurd rfl callable

/-- Loops are divided that have no loop above them. -/
theorem suits_distributed_iff {ctx : Context} {above : List Node} {n : Node} :
    Suits ctx above n .distributed ↔ n.isIteration = true ∧ above.any Node.isIteration = false := by
  rw [Suits, isOutermostLoop, Bool.and_eq_true, Bool.not_eq_true']

/-- Loops are parallel that may be, and have no such loop above them. -/
theorem suits_parallel_iff {ctx : Context} {above : List Node} {n : Node} :
    Suits ctx above n .parallel ↔
      n.isParallelizable = true ∧ above.any Node.isParallelizable = false := by
  rw [Suits, isOutermostParallel, Bool.and_eq_true, Bool.not_eq_true']

/-- Only loops suit an annotation other than that of callables. -/
theorem isIteration_of_suits {ctx : Context} {above : List Node} {n : Node} {p : Property}
    (suits : Suits ctx above n p) (callable : p ≠ .flushDenormals) : n.isIteration = true := by
  by_cases distributed : p = .distributed
  · subst distributed
    exact (suits_distributed_iff.1 suits).1
  · have free : n.isParallelizable = true := isParallelizable_of_suits suits distributed callable
    exact (Bool.and_eq_true_iff.1 free).1

/-- A node that carries a dependence suits no annotation that asks for independent iterations. -/
theorem not_suits_of_dependent {ctx : Context} {above : List Node} {n : Node}
    (dependent : .sequential ∈ n.properties) {p : Property} (distributed : p ≠ .distributed)
    (callable : p ≠ .flushDenormals) : ¬ Suits ctx above n p := by
  intro suits
  have free : n.isParallelizable = true := isParallelizable_of_suits suits distributed callable
  have bound : n.isParallelizable = false := by
    rw [Node.isParallelizable, Node.hasProperty_iff.2 dependent, Bool.not_true, Bool.and_false]
  exact Bool.false_ne_true (bound.symm.trans free)

/-- **What a loop that carries a dependence gains.**  However the passes of a run that succeeds are chosen
    and ordered, a node that carries a dependence is not marked to run in parallel, in vectors or in blocks
    if it was not before.  It gets to be divided among processes exactly if `mpi` is among the passes and
    it is a loop with no loop above. -/
theorem process_dependent {names : List String} {o : Options} {p : Platform} {t : Target}
    (made : Target.custom names o p Library.processor = .ok t) {elapsed : Nat → Duration} {root : Node} {run : Run}
    (ran : t.process elapsed root = .ok run) {path : List Nat} {above : List Node} {n : Node}
    (here : place? [] root path = some (above, n)) (dependent : .sequential ∈ n.properties) :
    ∃ above' n', place? [] run.unit.root path = some (above', n') ∧
      (∀ q, q = .parallel ∨ q = .parallelNested ∨ q = .vectorized ∨ (∃ levels, q = .blocked levels) →
        (q ∈ n'.properties ↔ q ∈ n.properties)) ∧
      (.distributed ∈ n'.properties ↔ .distributed ∈ n.properties ∨
        ("mpi" ∈ names ∧ n.isIteration = true ∧ ∀ a ∈ above, a.isIteration = false)) := by
  rw [unit_of_process made ran]
  refine ⟨_, _, place?_apply_effects ⟨o, p⟩ names here, fun q hq => ?_, ?_⟩
  · have foreign : q ≠ .distributed ∧ q ≠ .flushDenormals := by
      rcases hq with rfl | rfl | rfl | ⟨levels, rfl⟩ <;> exact ⟨nofun, nofun⟩
    rw [mem_mark, mem_effects]
    exact or_iff_left fun gains => not_suits_of_dependent dependent foreign.1 foreign.2 gains.2
  · rw [mem_mark, mem_effects]
    refine or_congr_right ?_
    simp [givers, Suits, isOutermostLoop]

/-- A loop that carries a dependence and stands between two others stays as it is in a run of all passes. -/
theorem process_dependent_middle :
    let inner : Node := .iteration "y" []
    let middle : Node := (Node.iteration "t" [inner]).withProperty .sequential
    let root : Node := .iteration "x" [middle]
    let names := ["simd", "blocking", "openmp-nested", "mpi"]
    ∃ t run, Target.custom names {} .knl Library.processor = .ok t ∧
      t.process (fun _ => 0) root = .ok run ∧ place? [] root [0] = some ([root], middle) ∧
      .sequential ∈ middle.properties ∧
      ∃ above' n', place? [] run.unit.root [0] = some (above', n') ∧
        (∀ q, q = .parallel ∨ q = .parallelNested ∨ q = .vectorized ∨ (∃ levels, q = .blocked levels) →
          (q ∈ n'.properties ↔ q ∈ middle.properties)) ∧
        (.distributed ∈ n'.properties ↔ .distributed ∈ middle.properties ∨
          ("mpi" ∈ names ∧ middle.isIteration = true ∧ ∀ a ∈ [root], a.isIteration = false)) := by
  intro inner middle root names
  obtain ⟨t, made⟩ : ∃ t, Target.custom names {} .knl Library.processor = .ok t := ⟨_, rfl⟩
  obtain ⟨run, ran⟩ : ∃ run, t.process (fun _ => 0) root = .ok run := by
    obtain rfl := Except.ok.inj made
    exact ⟨_, rfl⟩
  have here : place? [] root [0] = some ([root], middle) := rfl
  have dependent : .sequential ∈ middle.properties := by decide
  exact ⟨t, run, made, ran, here, dependent, process_dependent made ran here dependent⟩

/-- A loop that carries a dependence and stands in no other is divided among processes. -/
theorem distributed_dependent_loop :
    let loop : Node := (Node.iteration "s" [.expression "r = r + u"]).withProperty .sequential
    let root : Node := .callable "kernel" [loop, .iteration "y" [.expression "u = 2*u"]]
    ∃ t run above' n', Target.custom ["mpi"] {} .cpu64 Library.processor = .ok t ∧
      t.process (fun _ => 0) root = .ok run ∧ place? [] root [0] = some ([root], loop) ∧
      place? [] run.unit.root [0] = some (above', n') ∧
      .sequential ∈ loop.properties ∧ .distributed ∉ loop.properties ∧ .distributed ∈ n'.properties := by
  exact ⟨_, _, _, _, rfl, rfl, rfl, rfl, by decide, by decide, by decide⟩

end LoopLowering.Pass
