/-
  Modes that spell their passes.

  A name that is no mode of a platform is read as a list with commas, by the lowering; the command line reads
  such a list too, and asks for its passes outright.  The two come to the same.

  1.  ENDINGS.  Two lowerings end alike if they fail with one error, or leave the same unit, passes, labels,
      options and ignored keys.  They may differ in their modes and times.

  2.  TIMES.  A target does the same to a tree however long its passes take (`sameEnding_finish`).

  3.  NAMES.  A name that is not filed leads to the call that its list leads to (`call?_known`), so both
      lowerings end alike (`lower_spelled`).
-/
import LoopLowering.CommandLine.Settings
import LoopLowering.Proofs.Lowering.Dispatch
import LoopLowering.Proofs.Lowering.Outcome
import LoopLowering.Proofs.Pass.Pipeline

namespace LoopLowering

open LoopLowering.Text

/-! ## 1. Endings -/

/-- Two lowerings left the same, modes and times apart. -/
structure Lowered.Alike (a b : Lowered) : Prop where
  unit : a.run.unit = b.run.unit
  passes : a.run.ledger.passes = b.run.ledger.passes
  labels : a.run.ledger.labels = b.run.ledger.labels
  options : a.options = b.options
  ignored : a.ignored = b.ignored

/-- Two lowerings fail with the same error, or leave the same. -/
inductive SameEnding : Except LoweringError Lowered → Except LoweringError Lowered → Prop
  | failed (e : LoweringError) : SameEnding (.error e) (.error e)
  | lowered {a b : Lowered} (alike : a.Alike b) : SameEnding (.ok a) (.ok b)

/-! ## 2. Times -/

/-- How long the passes take decides nothing but times. -/
theorem Target.process_elapsed (t : Target) (elapsed elapsed' : Nat → Duration) (root : Node) :
    (∃ e, t.process elapsed root = .error e ∧ t.process elapsed' root = .error e) ∨
    ∃ run run', t.process elapsed root = .ok run ∧ t.process elapsed' root = .ok run' ∧
      run.unit = run'.unit ∧ run.ledger.passes = run'.ledger.passes ∧
      run.ledger.labels = run'.ledger.labels := by
  cases ran : t.process elapsed root with
  | error e => exact Or.inl ⟨e, rfl, process_eq_error_iff.2 (process_eq_error_iff.1 ran)⟩
  | ok run =>
    obtain ⟨rewrites, ledger⟩ := process_eq_ok_iff.1 ran
    let run' : Run := ⟨run.unit, Ledger.after elapsed' 0 {} t.passNames⟩
    have ran' : t.process elapsed' root = .ok run' := process_eq_ok_iff.2 ⟨rewrites, rfl⟩
    refine Or.inr ⟨run, run', rfl, ran', rfl, ?_, ?_⟩
    · rw [ledger, Ledger.passes_after, Ledger.passes_after]
    · rw [ledger]
      exact Ledger.labels_after rfl rfl

namespace Lowerer

/-- What the target that a factory made comes to on a tree. -/
theorem finish_ok (l : Lowerer) (root : Node) (mode : Mode) (o : Options) (ignored : List String) (t : Target) :
    l.finish root mode o ignored (.ok t) =
      (t.process l.elapsed root).map fun run =>
        ⟨run, mode, o, ignored, run.ledger.profile l.configuration.profiling l.seconds⟩ := by
  show (do let run ← t.process l.elapsed root; _) = _
  cases t.process l.elapsed root <;> rfl

/-- The same answer of a factory comes to the same, whatever the mode was called. -/
theorem sameEnding_finish (l l' : Lowerer) (root : Node) (mode mode' : Mode) (o : Options)
    (ignored : List String) (made : Except LoweringError Target) :
    SameEnding (l.finish root mode o ignored made) (l'.finish root mode' o ignored made) := by
  cases made with
  | error e => exact .failed e
  | ok t =>
    rw [finish_ok, finish_ok]
    rcases t.process_elapsed l.elapsed l'.elapsed root with
      ⟨e, ran, ran'⟩ | ⟨run, run', ran, ran', unit, passes, labels⟩
    · rw [ran, ran']
      exact .failed e
    · rw [ran, ran']
      exact .lowered ⟨unit, passes, labels, rfl, rfl⟩

end Lowerer

/-! ## 3. Names -/

/-- A name that is not filed leads where its list leads. -/
theorem Registry.call?_known {r : Registry} {p : Platform} {s : String}
    (unfiled : ∀ e, r.govern? p = some e → e.modes.get? (.named s) = none) (o : Options) :
    r.call? (.known s) o p = r.call? (.custom (commaList s)) o p := by
  rw [call?_eq, call?_eq]
  cases governs : r.govern? p with
  | none => rfl
  | some e =>
    have missing : (Mode.known s).key?.bind e.modes.get? = none := unfiled e governs
    rw [Option.bind_some, Option.bind_some, missing]
    rfl

namespace Lowerer

/-- Lowerings with one registry and one configuration end alike if their modes lead to one call. -/
theorem sameEnding_lower (l l' : Lowerer) (configuration : l.configuration = l'.configuration)
    {p : Platform} {request request' : Option ModeRequest}
    (calls : ∀ o, l.registry.call? (Mode.resolve request o) o p = l'.registry.call? (Mode.resolve request' o) o p)
    (root : Node) (overrides : List Override) :
    SameEnding (l.lower root p request overrides).result (l'.lower root p request' overrides).result := by
  cases merged : ((Options.ofConfiguration l.configuration).merge overrides).result with
  | error e =>
    rw [lower, lower, ← configuration, merged]
    exact .failed (.invalidOption e)
  | ok o =>
    have merged' := configuration ▸ merged
    rw [lower_eq_conclude merged, lower_eq_conclude merged', result_conclude, result_conclude, calls,
      configuration]
    exact sameEnding_finish ..

/-- **A name and the list that it spells lower alike**, if the name is no mode of the platform. -/
theorem lower_spelled (r : Registry) (c : Configuration) (elapsed elapsed' : Nat → Duration)
    (seconds seconds' : Nat → String) (root : Node) (p : Platform) (overrides : List Override) {s : String}
    (other : s ≠ "noop") (unfiled : ∀ e, r.govern? p = some e → e.modes.get? (.named s) = none)
    {request : CommandLine.LowerRequest} (list : request.passes = some s) :
    SameEnding
      (Lowerer.lower ⟨r, c, elapsed, seconds⟩ root p (some (.name s)) overrides).result
      (Lowerer.lower ⟨r, c, elapsed', seconds'⟩ root p request.modeRequest overrides).result ∧
    (∃ parts, joinChars ',' parts = s.toList ∧ parts ≠ [] ∧ (∀ part ∈ parts, ',' ∉ part) ∧
      request.modeRequest =
        some (.passes (((parts.map trimChars).filter fun part => !part.isEmpty).map String.ofList))) ∧
    ∀ names : List String, (∀ name ∈ names, name ≠ "" ∧ ',' ∉ name.toList ∧ Trimmed name.toList) →
      (Mode.known (",".intercalate names)).passes = names := by
  have asked : request.modeRequest = some (.passes (commaList s)) := by
    rw [CommandLine.LowerRequest.modeRequest, list]
  refine ⟨?_, ⟨pieces ',' s.toList, ?_, pieces_ne_nil ',' s.toList, fun _ => not_mem_of_mem_pieces, asked⟩,
    fun names => commaList_intercalate⟩
  · have named : ∀ o, Mode.resolve (some (.name s)) o = .known s := fun o => if_neg fun h => other h.1
    refine sameEnding_lower ⟨r, c, elapsed, seconds⟩ ⟨r, c, elapsed', seconds'⟩ rfl (fun o => ?_) root overrides
    rw [named, asked]
    exact Registry.call?_known unfiled o
  · exact joinChars_pieces ',' s.toList

/-- A name with stray commas and blanks, of passes one of which is named twice, on the processor back end:
    both lowerings run the three passes, and label the repeated one anew. -/
theorem lower_spelled_stray :
    let s := " mpi,,simd ,\u2003mpi,"
    let request : CommandLine.LowerRequest := { input := "f.json", passes := some s }
    let root : Node := .callable "f" [.iteration "x" [.iteration "y" []]]
    let byName := (Lowerer.lower ⟨Backend.registry, {}, fun _ => 0, fun n => toString n⟩ root .skx
      (some (.name s)) []).result
    let byList := (Lowerer.lower ⟨Backend.registry, {}, fun n => n, fun n => toString n⟩ root .skx
      request.modeRequest []).result
    (byName.toOption.map fun lowered => lowered.run.ledger.labels) = some ["mpi", "simd", "mpi1"] ∧
    s ≠ "noop" ∧ Backend.registry.govern? .skx = some (Backend.entry false) ∧
    (Backend.entry false).modes.get? (.named s) = none ∧ request.passes = some s ∧
    SameEnding byName byList ∧ (Mode.known (",".intercalate ["mpi", "simd"])).passes = ["mpi", "simd"] := by
  intro s request root byName byList
  have other : s ≠ "noop" := by decide
  have governs : Backend.registry.govern? .skx = some (Backend.entry false) := rfl
  have missing : (Backend.entry false).modes.get? (.named s) = none := rfl
  have unfiled : ∀ e, Backend.registry.govern? .skx = some e → e.modes.get? (.named s) = none := by
    intro e he
    obtain rfl : Backend.entry false = e := Option.some.inj (governs.symm.trans he)
    exact missing
  have list : request.passes = some s := rfl
  obtain ⟨same, -, spelled⟩ := lower_spelled Backend.registry {} (fun _ => 0) (fun n => n) (fun n => toString n)
    (fun n => toString n) root .skx [] other unfiled list
  have labels : (byName.toOption.map fun lowered => lowered.run.ledger.labels) = some ["mpi", "simd", "mpi1"] := by
    decide +kernel
  exact ⟨labels, other, governs, missing, list, same, spelled ["mpi", "simd"] (by decide +kernel)⟩

end Lowerer

end LoopLowering
