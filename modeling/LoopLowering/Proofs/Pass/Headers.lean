/-
  The headers that a run of passes needs.

  1.  DEMAND.  A pass asks for its headers if the tree has a node of the sort that it looks for, wherever that
      node stands (`mem_headers`).  Passes move nothing, so a run includes what its passes ask of the tree that
      it began with, whatever the passes before them did (`mem_includes_of_process`).

  2.  CARRIERS.  The pass that asks for a header marks the outermost nodes of the sort only.  But if there is any
      such node, there is one with no other above it (`exists_outermost_iff`).  So a header of parallel or of
      divided loops is included exactly if the tree is left with a loop that carries the annotation
      (`process_headers`).
-/
import LoopLowering.Proofs.Pass.Gains
import LoopLowering.Proofs.Pass.Loops

namespace LoopLowering.Pass

open Node (placed mark mem_mark Independent isParallelizable_iff)

/-! ## 1. Demand -/

/-- What a pass asks for, and which node it asks for it. -/
theorem mem_headers {ctx : Context} {name header : String} {root : Node} :
    header ∈ (effect ctx name).headers root ↔
      name = "denormals" ∧ (header = "xmmintrin.h" ∨ header = "pmmintrin.h") ∧
        (∃ m ∈ root.preorder, m.kind.isCallable = true) ∨
      (name = "openmp" ∨ name = "openmp-nested") ∧ header = "omp.h" ∧ (∃ m ∈ root.preorder, m.Independent) ∨
      name = "mpi" ∧ header = "mpi.h" ∧ ∃ m ∈ root.preorder, m.isIteration = true := by
  unfold effect
  split
  · simp [denormalsEffect, mem_needing]
  · simp [simdEffect]
  · simp [blockingEffect]
  · simp [openmpEffect, mem_needing, isParallelizable_iff]
  · simp [openmpEffect, mem_needing, isParallelizable_iff]
  · simp [mpiEffect, mem_needing]
  · simp_all

/-- **The headers of a run** are those that its passes ask of the tree it began with. -/
theorem mem_includes_of_process {names : List String} {o : Options} {p : Platform} {t : Target}
    (made : Target.custom names o p Library.processor = .ok t) {elapsed : Nat → Duration} {root : Node} {run : Run}
    (ran : t.process elapsed root = .ok run) (header : String) :
    header ∈ run.unit.includes ↔
      (header = "xmmintrin.h" ∨ header = "pmmintrin.h") ∧ "denormals" ∈ names ∧
        (∃ m ∈ root.preorder, m.kind.isCallable = true) ∨
      header = "omp.h" ∧ ("openmp" ∈ names ∨ "openmp-nested" ∈ names) ∧
        (∃ m ∈ root.preorder, m.Independent) ∨
      header = "mpi.h" ∧ "mpi" ∈ names ∧ ∃ m ∈ root.preorder, m.isIteration = true := by
  have demand : header ∈ run.unit.includes ↔
      ∃ name ∈ names, header ∈ (effect ⟨o, p⟩ name).headers root := by
    rw [unit_of_process made ran]
    show header ∈ ((names.map (effect ⟨o, p⟩)).flatMap fun e => e.headers root).foldl SortedSet.insert ∅ ↔ _
    rw [SortedSet.mem_foldl_insert, List.flatMap_map, List.mem_flatMap]
    exact or_iff_right SortedSet.not_mem_empty
  rw [demand]
  constructor
  · rintro ⟨name, hname, asks⟩
    rcases mem_headers.1 asks with ⟨rfl, vector, callable⟩ | ⟨rfl | rfl, rfl, free⟩ | ⟨rfl, rfl, loop⟩
    · exact Or.inl ⟨vector, hname, callable⟩
    · exact Or.inr (Or.inl ⟨rfl, Or.inl hname, free⟩)
    · exact Or.inr (Or.inl ⟨rfl, Or.inr hname, free⟩)
    · exact Or.inr (Or.inr ⟨rfl, hname, loop⟩)
  · rintro (⟨vector, hname, callable⟩ | ⟨rfl, hname | hname, free⟩ | ⟨rfl, hname, loop⟩)
    · exact ⟨_, hname, mem_headers.2 (Or.inl ⟨rfl, vector, callable⟩)⟩
    · exact ⟨_, hname, mem_headers.2 (Or.inr (Or.inl ⟨Or.inl rfl, rfl, free⟩))⟩
    · exact ⟨_, hname, mem_headers.2 (Or.inr (Or.inl ⟨Or.inr rfl, rfl, free⟩))⟩
    · exact ⟨_, hname, mem_headers.2 (Or.inr (Or.inr ⟨rfl, rfl, loop⟩))⟩

/-! ## 2. Carriers -/

/-- Where some node satisfies a condition, one does that has no such node above it. -/
theorem exists_outermost_iff {condition : Node → Bool} (root : Node) :
    (∃ place ∈ placed [] root, condition place.2 = true ∧ place.1.any condition = false) ↔
      ∃ m ∈ root.preorder, condition m = true := by
  have top : ([] : List Node).any condition = false := rfl
  rw [← List.any_eq_true, ← Node.outermostWhere_pos, length_outermostWhere top, List.countP_pos_iff]
  simp only [Bool.and_eq_true, Bool.not_eq_true']

/-- What a sequence leaves of a tree has a loop with an annotation that no loop had before, exactly if the
    sequence has a giver of the annotation and some loop suits it. -/
theorem exists_carrier_iff {ctx : Context} {names : List String} {root : Node} {q : Property}
    (fresh : ∀ m ∈ root.preorder, m.isIteration = true → q ∉ m.properties) :
    (∃ m ∈ ((effects ctx names).apply { root }).root.preorder, m.isIteration = true ∧ q ∈ m.properties) ↔
      (∃ name ∈ givers q, name ∈ names) ∧
        ∃ place ∈ placed [] root, place.2.isIteration = true ∧ Suits ctx place.1 place.2 q := by
  show (∃ m ∈ (mark (effects ctx names).rule [] root).preorder, _) ↔ _
  rw [Node.preorder_mark]
  constructor
  · rintro ⟨m, hm, loop, carries⟩
    obtain ⟨place, hplace, rfl⟩ := List.mem_map.1 hm
    rw [Node.isIteration_mark] at loop
    rcases mem_mark.1 carries with before | added
    · exact absurd before (fresh place.2 (Node.mem_preorder_of_mem_placed hplace) loop)
    · obtain ⟨⟨name, hname, gives⟩, suits⟩ := mem_effects.1 added
      exact ⟨⟨name, gives, hname⟩, place, hplace, loop, suits⟩
  · rintro ⟨⟨name, gives, hname⟩, place, hplace, loop, suits⟩
    have added := mem_effects.2 ⟨⟨name, hname, gives⟩, suits⟩
    refine ⟨_, List.mem_map_of_mem hplace, ?_, mem_mark.2 (Or.inr added)⟩
    rw [Node.isIteration_mark, loop]

/-- Some loop suits being parallel exactly if some loop is independent. -/
theorem exists_suits_parallel_iff {ctx : Context} {root : Node} :
    (∃ place ∈ placed [] root, place.2.isIteration = true ∧ Suits ctx place.1 place.2 .parallel) ↔
      ∃ m ∈ root.preorder, m.Independent := by
  simp only [← isParallelizable_iff, ← exists_outermost_iff root]
  refine exists_congr fun place => and_congr_right fun _ => ?_
  rw [suits_parallel_iff]
  -- A loop that may be parallel is a loop.
  exact and_iff_right_of_imp fun outermost => (Bool.and_eq_true_iff.1 outermost.1).1

/-- Some loop suits being divided exactly if there is a loop. -/
theorem exists_suits_distributed_iff {ctx : Context} {root : Node} :
    (∃ place ∈ placed [] root, place.2.isIteration = true ∧ Suits ctx place.1 place.2 .distributed) ↔
      ∃ m ∈ root.preorder, m.isIteration = true := by
  rw [← exists_outermost_iff root]
  refine exists_congr fun place => and_congr_right fun _ => ?_
  rw [suits_distributed_iff]
  exact and_iff_right_of_imp fun outermost => outermost.1

/-- **Which headers a run includes.**  The two of the vector unit are for flushing denormal numbers in callables,
    that of shared memory for independent loops and that of distributed memory for loops, each if the sequence
    has a pass that looks for such nodes and the tree has one; there are no others.  A tree that began
    without parallel (divided) loops is left with one exactly if the header is included. -/
theorem process_headers {names : List String} {o : Options} {p : Platform} {t : Target}
    (made : Target.custom names o p Library.processor = .ok t) {elapsed : Nat → Duration} {root : Node} {run : Run}
    (ran : t.process elapsed root = .ok run) :
    (∀ header, header ∈ run.unit.includes ↔
      (header = "xmmintrin.h" ∨ header = "pmmintrin.h") ∧ "denormals" ∈ names ∧
        (∃ m ∈ root.preorder, m.kind.isCallable = true) ∨
      header = "omp.h" ∧ ("openmp" ∈ names ∨ "openmp-nested" ∈ names) ∧
        (∃ m ∈ root.preorder, m.Independent) ∨
      header = "mpi.h" ∧ "mpi" ∈ names ∧ ∃ m ∈ root.preorder, m.isIteration = true) ∧
    ((∀ m ∈ root.preorder, m.isIteration = true → .parallel ∉ m.properties) →
      ("omp.h" ∈ run.unit.includes ↔
        ∃ m ∈ run.unit.root.preorder, m.isIteration = true ∧ .parallel ∈ m.properties)) ∧
    ((∀ m ∈ root.preorder, m.isIteration = true → .distributed ∉ m.properties) →
      ("mpi.h" ∈ run.unit.includes ↔
        ∃ m ∈ run.unit.root.preorder, m.isIteration = true ∧ .distributed ∈ m.properties)) := by
  have includes := mem_includes_of_process made ran
  refine ⟨includes, fun fresh => ?_, fun fresh => ?_⟩
  · rw [includes, unit_of_process made ran, exists_carrier_iff fresh, exists_suits_parallel_iff]
    simp [givers]
  · rw [includes, unit_of_process made ran, exists_carrier_iff fresh, exists_suits_distributed_iff]
    simp [givers]

/-- A loop inside one that carries a dependence: the inner one runs in parallel, the outer one is divided, and
    the callable around them is not looked at. -/
theorem process_headers_nest :
    let inner : Node := .iteration "x" [.expression "u = u + 1"]
    let outer : Node := (Node.iteration "time" [inner]).withProperty .sequential
    let root : Node := .callable "kernel" [outer]
    let names := ["mpi", "simd", "openmp"]
    ∃ t run, Target.custom names {} .skx Library.processor = .ok t ∧ t.process (fun _ => 0) root = .ok run ∧
      (∀ header, header ∈ run.unit.includes ↔ header = "omp.h" ∨ header = "mpi.h") ∧
      (∃ m ∈ run.unit.root.preorder, m.isIteration = true ∧ .parallel ∈ m.properties) ∧
      (∃ m ∈ run.unit.root.preorder, m.isIteration = true ∧ .distributed ∈ m.properties) := by
  intro inner outer root names
  obtain ⟨t, made⟩ : ∃ t, Target.custom names {} .skx Library.processor = .ok t := ⟨_, rfl⟩
  obtain ⟨run, ran⟩ : ∃ run, t.process (fun _ => 0) root = .ok run := by
    obtain rfl := Except.ok.inj made
    exact ⟨_, rfl⟩
  obtain ⟨includes, parallel, divided⟩ := process_headers made ran
  have free : ∃ m ∈ root.preorder, m.Independent := ⟨inner, by decide, by decide⟩
  have loop : ∃ m ∈ root.preorder, m.isIteration = true := ⟨outer, by decide, by decide⟩
  have shared : "omp.h" ∈ run.unit.includes := (includes _).2 (Or.inr (Or.inl ⟨rfl, Or.inl (by decide), free⟩))
  have spread : "mpi.h" ∈ run.unit.includes := (includes _).2 (Or.inr (Or.inr ⟨rfl, by decide, loop⟩))
  refine ⟨t, run, made, ran, fun header => ⟨fun included => ?_, ?_⟩, (parallel (by decide)).1 shared,
    (divided (by decide)).1 spread⟩
  · rcases (includes header).1 included with ⟨-, missing, -⟩ | ⟨omp, -⟩ | ⟨mpi, -⟩
    · exact absurd missing (by decide)
    · exact Or.inl omp
    · exact Or.inr mpi
  · rintro (rfl | rfl)
    · exact shared
    · exact spread

end LoopLowering.Pass
