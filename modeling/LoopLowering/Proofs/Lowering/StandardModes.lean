/-
  The two modes that every class has, on processors.

  The pipelines of `noop` and `advanced` have names of the library only (`find?_standard`), so of the errors
  of a lowering there remains one: too many levels of blocking, and only `advanced` tiles loops.  Where
  neither an override nor the configuration says otherwise, the levels are those of the platform, and what
  decides is whether these are more than a loop can be tiled at (`lower_standard`).

  The findings about a platform do not ask for that.  They mention the levels only if there are none, so a
  platform without any finding may still have more than the back end takes
  (`lower_advanced_of_five_levels`).
-/
import LoopLowering.Platform.Validation
import LoopLowering.Proofs.Lowering.Outcome

namespace LoopLowering.Backend

open Pass (Library Blocked tooManyLevels)

/-- The library has all names of the two pipelines. -/
theorem find?_standard {mode : String} (h : mode = "noop" ∨ mode = "advanced") (nested : Bool) (o : Options) :
    (pipelineOf nested o (some (.name mode))).find? (fun x => x ∉ Library.processor.names) = none := by
  have library : Library.processor.names =
      ["denormals", "simd", "blocking", "openmp", "openmp-nested", "mpi"] := by decide
  rw [library]
  rcases h with rfl | rfl
  · cases hm : o.mpi <;> cases ho : o.openmp <;> simp [pipelineOf, hm, ho]
  · cases hm : o.mpi <;> cases ho : o.openmp <;> cases nested <;> simp [pipelineOf, hm, ho]

/-- Loops are tiled in the mode `advanced` and not in `noop`. -/
theorem blocking_mem_standard {mode : String} (h : mode = "noop" ∨ mode = "advanced") (nested : Bool)
    (o : Options) : "blocking" ∈ pipelineOf nested o (some (.name mode)) ↔ mode = "advanced" := by
  rcases h with rfl | rfl
  · cases hm : o.mpi <;> cases ho : o.openmp <;> simp [pipelineOf, hm, ho]
  · simp [pipelineOf]

section Processor

variable {p : Platform} (processor : "cpu64" ∈ p.family.lineage) {c : Configuration}
  (unset : c.blocking.blocklevels = none)
include processor unset

/-- A standard mode fails if it tiles loops and the platform has too many levels, and for no other reason. -/
theorem result_standard {mode : String} (h : mode = "noop" ∨ mode = "advanced") (elapsed : Nat → Duration)
    (seconds : Nat → String) (root : Node) :
    let result := (Lowerer.lower ⟨registry, c, elapsed, seconds⟩ root p (some (.name mode)) []).result
    if mode = "advanced" ∧ 4 < p.blockLevels.toNat then
      result = .error (.passFailed "blocking" (tooManyLevels p.blockLevels))
    else ∃ lowered, result = .ok lowered := by
  intro result
  have governed : ¬ Ungoverned p.family.lineage := fun h => h.1 processor
  have levels : Pass.Context.blockLevels ⟨Options.ofConfiguration c, p⟩ = p.blockLevels := by
    rw [Pass.Context.blockLevels, Options.ofConfiguration, unset, Option.getD_none]
  have blocked : Blocked ⟨Options.ofConfiguration c, p⟩
      (pipelineOf (isNested p.family.lineage) (Options.ofConfiguration c) (some (.name mode))) ↔
        mode = "advanced" ∧ 4 < p.blockLevels.toNat := by
    rw [Blocked, blocking_mem_standard h, levels]
    rfl
  have outcome : result = _ := Lowerer.result_lower ⟨registry, c, elapsed, seconds⟩ root p _ []
  rw [List.findSome?_nil] at outcome
  dsimp only [List.foldl_nil] at outcome
  rw [lowerWith_eq rfl root p _ _ _ rfl, if_neg governed, find?_standard h] at outcome
  by_cases many : mode = "advanced" ∧ 4 < p.blockLevels.toNat
  · rw [if_pos many, outcome, ← levels]
    exact if_pos (blocked.2 many)
  · rw [if_neg many]
    exact ⟨_, outcome.trans (if_neg fun b => many (blocked.1 b))⟩

/-- **The standard modes on a processor**, without overrides, and where the configuration does not set the
    levels of blocking.  `noop` succeeds on every tree; `advanced` succeeds exactly if the platform has at
    most four levels, and otherwise fails at `blocking`. -/
theorem lower_standard (elapsed : Nat → Duration) (seconds : Nat → String) (root : Node) :
    let lower := fun mode =>
      (Lowerer.lower ⟨registry, c, elapsed, seconds⟩ root p (some (.name mode)) []).result
    (∃ lowered, lower "noop" = .ok lowered) ∧
    ((∃ lowered, lower "advanced" = .ok lowered) ↔ p.blockLevels.toNat ≤ 4) ∧
    (4 < p.blockLevels.toNat →
      lower "advanced" = .error (.passFailed "blocking" (tooManyLevels p.blockLevels))) := by
  intro lower
  have plain := result_standard processor unset (Or.inl rfl) elapsed seconds root
  have full := result_standard processor unset (Or.inr rfl) elapsed seconds root
  dsimp only at plain full
  rw [if_neg fun h => absurd h.1 (by decide)] at plain
  refine ⟨plain, ?_⟩
  by_cases many : 4 < p.blockLevels.toNat
  · rw [if_pos ⟨rfl, many⟩] at full
    refine ⟨⟨fun ⟨lowered, ok⟩ => ?_, fun few => absurd many (Nat.not_lt.2 few)⟩, fun _ => full⟩
    cases full.symm.trans ok
  · rw [if_neg fun h => many h.2] at full
    exact ⟨⟨fun _ => Nat.not_lt.1 many, fun _ => full⟩, fun h => absurd h many⟩

end Processor

/-- Both kinds of parallelism on a processor with two levels of blocking. -/
theorem lower_standard_knl :
    let c : Configuration := { openmp := true, mpi := true }
    let lower := fun mode =>
      (Lowerer.lower ⟨registry, c, fun _ => 0, fun n => toString n⟩ (.iteration "x" [.iteration "y" []]) .knl
        (some (.name mode)) []).result
    "cpu64" ∈ Platform.knl.family.lineage ∧ c.blocking.blocklevels = none ∧
    (∃ lowered, lower "noop" = .ok lowered) ∧
    ((∃ lowered, lower "advanced" = .ok lowered) ↔ Platform.knl.blockLevels.toNat ≤ 4) ∧
    (4 < Platform.knl.blockLevels.toNat →
      lower "advanced" = .error (.passFailed "blocking" (tooManyLevels Platform.knl.blockLevels))) := by
  intro c lower
  have processor : "cpu64" ∈ Platform.knl.family.lineage := by decide
  exact ⟨processor, rfl, lower_standard processor rfl _ _ _⟩

/-- A platform without any finding that `advanced` is refused on, even for a tree without loops. -/
theorem lower_advanced_of_five_levels :
    let p : Platform := { Platform.cpu64 with blockLevels := 5 }
    let c : Configuration := {}
    p.issues = [] ∧ "cpu64" ∈ p.family.lineage ∧ c.blocking.blocklevels = none ∧
    (Lowerer.lower ⟨registry, c, fun _ => 0, fun n => toString n⟩ (.expression "u = 0") p
      (some (.name "advanced")) []).result = .error (.passFailed "blocking" (tooManyLevels 5)) := by
  refine ⟨by decide +kernel, by decide, rfl, rfl⟩

end LoopLowering.Backend
