/-
  Passes on trees without loops.

  1.  SILENCE.  All passes but `denormals` annotate loops and ask for headers because of loops.  In a tree without
      loops their rules are silent at each place and they ask for nothing, so what they leave is the unit that
      they met (`apply_effect_of_loopFree`).

  2.  RUNS.  A sequence of such passes leaves the unit that it met, too (`apply_effects_of_loopFree`).  A run
      has then nothing to show but its ledger (`process_loopFree`).  But `blocking` looks at the levels that it
      is to annotate before it looks at the tree: too many of them make it refuse any tree
      (`blocking_refuses_loopFree`).
-/
import LoopLowering.Proofs.Pass.Headers

namespace LoopLowering.Pass

open Node (placed mark)

/-! ## 1. Silence -/

/-- The passes that annotate loops. -/
def loopPasses : List String := ["simd", "blocking", "openmp", "openmp-nested", "mpi"]

variable {ctx : Context} {name : String} {names : List String}

theorem rule_eq_nil (loops : name ∈ loopPasses) (above : List Node) {n : Node} (other : n.isIteration = false) :
    (effect ctx name).rule above n = [] := by
  refine List.eq_nil_iff_forall_not_mem.2 fun q said => ?_
  obtain ⟨gives, suits⟩ := mem_effect.1 said
  have callable : q ≠ .flushDenormals := by
    rintro rfl
    obtain rfl : name = "denormals" := List.mem_singleton.1 gives
    exact absurd loops (by decide)
  have loop := isIteration_of_suits suits callable
  rw [other] at loop
  cases loop

theorem headers_eq_nil (loops : name ∈ loopPasses) {root : Node}
    (loopFree : ∀ m ∈ root.preorder, m.isIteration = false) : (effect ctx name).headers root = [] := by
  have noLoop : ∀ m ∈ root.preorder, m.isIteration ≠ true := fun m hm loop =>
    Bool.false_ne_true ((loopFree m hm).symm.trans loop)
  refine List.eq_nil_iff_forall_not_mem.2 fun header asks => ?_
  rcases mem_headers.1 asks with ⟨rfl, -, -⟩ | ⟨-, -, m, hm, free⟩ | ⟨-, -, m, hm, loop⟩
  · exact absurd loops (by decide)
  · exact noLoop m hm free.1
  · exact noLoop m hm loop

/-- **A pass that finds no loop leaves the unit alone.** -/
theorem apply_effect_of_loopFree (loops : name ∈ loopPasses) {u : TranslationUnit}
    (loopFree : ∀ m ∈ u.root.preorder, m.isIteration = false) : (effect ctx name).apply u = u := by
  have root : mark (effect ctx name).rule [] u.root = u.root := by
    refine Node.mark_eq_self_of_silent fun place hplace => rule_eq_nil loops place.1 (loopFree place.2 ?_)
    exact Node.mem_preorder_of_mem_placed hplace
  rw [Effect.apply, root, headers_eq_nil loops loopFree]
  rfl

/-! ## 2. Runs -/

/-- Passes that find no loop leave the unit alone, however many they are. -/
theorem apply_effects_of_loopFree (drawn : ∀ x ∈ names, x ∈ loopPasses) {u : TranslationUnit}
    (loopFree : ∀ m ∈ u.root.preorder, m.isIteration = false) : (effects ctx names).apply u = u := by
  induction names with
  | nil => exact Effect.apply_all (fun _ => stable_of_mem) u
  | cons name rest ih =>
    rw [apply_effects_cons, apply_effect_of_loopFree (drawn name List.mem_cons_self) loopFree]
    exact ih fun x hx => drawn x (List.mem_cons_of_mem name hx)

theorem known_of_loopPasses : loopPasses ⊆ Library.processor.names := by decide

/-- **What loop passes do to a tree without loops.**  However they are chosen and ordered, a run leaves the tree as
    it was, includes nothing, and has an entry for each pass in its ledger; unless `blocking` is among them and
    is to annotate more than four levels, which it refuses before it looks at the tree. -/
theorem process_loopFree {names : List String}
    (drawn : ∀ x ∈ names, x ∈ ["simd", "blocking", "openmp", "openmp-nested", "mpi"]) {root : Node}
    (loopFree : ∀ m ∈ root.preorder, m.isIteration = false) (o : Options) (p : Platform) :
    let levels := o.blocklevels.getD p.blockLevels
    ∃ t, Target.custom names o p Library.processor = .ok t ∧ ∀ elapsed,
      (("blocking" ∈ names → levels.toNat ≤ 4) → ∃ run, t.process elapsed root = .ok run ∧
        run.unit.root = root ∧ run.unit.includes = ∅ ∧ run.ledger.passes = names) ∧
      ("blocking" ∈ names → 4 < levels.toNat →
        t.process elapsed root = .error (.passFailed "blocking" (tooManyLevels levels))) := by
  intro levels
  obtain ⟨t, made, runs⟩ := process_custom_eq (fun x hx => known_of_loopPasses (drawn x hx)) o p
  refine ⟨t, made, fun elapsed => ⟨fun few => ?_, fun blocking many => ?_⟩⟩
  · have passes : ¬ Blocked ⟨o, p⟩ names := fun refuses => Nat.not_lt.2 (few refuses.1) refuses.2
    rw [runs, if_neg passes, apply_effects_of_loopFree drawn loopFree]
    exact ⟨_, rfl, rfl, rfl, Ledger.passes_after elapsed names 0 {}⟩
  · have refuses : Blocked ⟨o, p⟩ names := ⟨blocking, many⟩
    rw [runs, if_pos refuses]
    rfl

/-- All five passes, one of them twice, on a callable with a region and a list in it, with as many levels of
    blocking as there can be. -/
theorem process_loopFree_callable :
    let root : Node := .callable "kernel" [⟨.region "init", ∅, [.expression "a = 1"]⟩, .list []]
    let names := ["mpi", "blocking", "openmp-nested", "simd", "openmp", "mpi"]
    let o : Options := { blockinner := true, blocklevels := some 4 }
    (∀ x ∈ names, x ∈ ["simd", "blocking", "openmp", "openmp-nested", "mpi"]) ∧
    (∀ m ∈ root.preorder, m.isIteration = false) ∧
    ∃ t run, Target.custom names o .knl Library.processor = .ok t ∧ t.process (fun _ => 0) root = .ok run ∧
      run.unit.root = root ∧ run.unit.includes = ∅ ∧ run.ledger.passes = names := by
  intro root names o
  have drawn : ∀ x ∈ names, x ∈ ["simd", "blocking", "openmp", "openmp-nested", "mpi"] := by decide
  have loopFree : ∀ m ∈ root.preorder, m.isIteration = false := by decide
  obtain ⟨t, made, runs⟩ := process_loopFree drawn loopFree o .knl
  obtain ⟨run, ran, same, bare, passes⟩ := (runs fun _ => 0).1 fun _ => by decide
  exact ⟨drawn, loopFree, t, run, made, ran, same, bare, passes⟩

/-- A callable without loops is refused because of five levels of blocking that nothing would carry. -/
theorem blocking_refuses_loopFree :
    let root : Node := .callable "k" [.expression "a = 1"]
    "blocking" ∈ ["simd", "blocking", "openmp", "openmp-nested", "mpi"] ∧
    (∀ m ∈ root.preorder, m.isIteration = false) ∧
    ∃ t, Target.custom ["blocking"] { blocklevels := some 5 } .cpu64 Library.processor = .ok t ∧
      ∀ elapsed, t.process elapsed root = .error (.passFailed "blocking" (tooManyLevels 5)) := by
  exact ⟨by decide, by decide, _, rfl, fun _ => rfl⟩

end LoopLowering.Pass
