/-
  Pipelines of passes of which nothing is known.

  A pass is any function that gives a unit or a failure, so what a pipeline does can only be told in terms
  of what its passes do one by one.

  1.  REWRITING.  `Rewrites ctx passes u v` says that the passes, each on what the one before it left, make
      `v` of `u`.  There is one such `v` at most (`Rewrites.unique`), and if there is none, then because
      some pass is the first to fail (`rewrites_or_stops`).

  2.  RUNS.  A run that goes through leaves what the passes make of the unit, and a ledger with an entry for
      each (`runFrom_of_rewrites`).  A run that stops gives the name and the failure of the pass where it
      stops, whatever stands behind that pass (`runFrom_of_stops`).

      A run of a pipeline is a run of its first part, continued with the rest (`runFrom_append`).

  3.  TARGETS.  A target begins its passes on the tree without headers and with an empty ledger, so both
      outcomes of `process` are told by the two kinds of runs (`process_iff`).
-/
import LoopLowering.Proofs.Ledger.Labels
import LoopLowering.Proofs.Pass.Sequence

namespace LoopLowering

namespace Pass

/-! ## 1. Rewriting -/

/-- The passes, each on what the one before it left, make one unit of another. -/
inductive Rewrites (ctx : Context) : List Pass → TranslationUnit → TranslationUnit → Prop
  | nil (u : TranslationUnit) : Rewrites ctx [] u u
  | cons {pass : Pass} {rest : List Pass} {u v w : TranslationUnit} (first : pass.run ctx u = .ok v)
      (others : Rewrites ctx rest v w) : Rewrites ctx (pass :: rest) u w

/-- The passes before `pass` go through, and it fails on what they left. -/
def StopsAt (ctx : Context) (passes : List Pass) (u : TranslationUnit) (pass : Pass) (failure : Failure) :
    Prop :=
  ∃ before after v,
    passes = before ++ pass :: after ∧ Rewrites ctx before u v ∧ pass.run ctx v = .error failure

variable {ctx : Context} {passes : List Pass} {u v w : TranslationUnit}

theorem Rewrites.unique (h : Rewrites ctx passes u v) (h' : Rewrites ctx passes u w) : v = w := by
  induction h with
  | nil => cases h' with | nil => rfl
  | cons first _ ih =>
    cases h' with
    | cons first' others' =>
      obtain rfl := Except.ok.inj (first.symm.trans first')
      exact ih others'

/-- Of passes that go through, each goes through on what those before it left. -/
theorem Rewrites.split {before after : List Pass} (h : Rewrites ctx (before ++ after) u w) :
    ∃ v, Rewrites ctx before u v ∧ Rewrites ctx after v w := by
  induction before generalizing u with
  | nil => exact ⟨u, .nil u, h⟩
  | cons pass rest ih =>
    cases h with
    | cons first others =>
      obtain ⟨v, hrest, hafter⟩ := ih others
      exact ⟨v, .cons first hrest, hafter⟩

/-- Passes go through, or there is a first that fails. -/
theorem rewrites_or_stops (ctx : Context) (passes : List Pass) (u : TranslationUnit) :
    (∃ v, Rewrites ctx passes u v) ∨ ∃ pass failure, StopsAt ctx passes u pass failure := by
  induction passes generalizing u with
  | nil => exact Or.inl ⟨u, .nil u⟩
  | cons pass rest ih =>
    cases ran : pass.run ctx u with
    | error failure => exact Or.inr ⟨pass, failure, [], rest, u, rfl, .nil u, ran⟩
    | ok v =>
      rcases ih v with ⟨w, others⟩ | ⟨stop, failure, before, after, w, rfl, hbefore, fails⟩
      · exact Or.inl ⟨w, .cons ran others⟩
      · exact Or.inr ⟨stop, failure, pass :: before, after, w, rfl, .cons ran hbefore, fails⟩

/-- Passes go through exactly if each does, on what those before it left. -/
theorem exists_rewrites_iff :
    (∃ w, Rewrites ctx passes u w) ↔ ∀ before pass after, passes = before ++ pass :: after →
      ∃ v w, Rewrites ctx before u v ∧ pass.run ctx v = .ok w := by
  constructor
  · rintro ⟨w, h⟩ before pass after rfl
    obtain ⟨v, hbefore, hrest⟩ := h.split
    cases hrest with
    | cons first _ => exact ⟨v, _, hbefore, first⟩
  · intro each
    rcases rewrites_or_stops ctx passes u with h | ⟨stop, failure, before, after, v, split, h, fails⟩
    · exact h
    · -- the pass that is the first to fail goes through on what those before it left
      obtain ⟨v', w, h', goes⟩ := each before stop after split
      obtain rfl := h.unique h'
      rw [fails] at goes
      cases goes

end Pass

open Pass (Rewrites StopsAt rewrites_or_stops)

/-! ## 2. Runs -/

/-- Entering passes keeps a ledger sound. -/
theorem Ledger.Sound.after {l : Ledger} (h : l.Sound) (elapsed : Nat → Duration) (n : Nat) (names : List String) :
    (l.after elapsed n names).Sound := by
  induction names generalizing n l with
  | nil => exact h
  | cons name rest ih => exact ih (h.record name (elapsed n)) (n + 1)

namespace Target

variable {ctx : Pass.Context} {elapsed : Nat → Duration} {passes : List Pass} {u v : TranslationUnit}

/-- A run of a pipeline is a run of its first part, continued with the rest. -/
theorem runFrom_append (before after : List Pass) (n : Nat) (run : Run) :
    runFrom ctx elapsed n run (before ++ after) = (do
      let mid ← runFrom ctx elapsed n run before
      runFrom ctx elapsed (n + before.length) mid after) := by
  induction before generalizing n run with
  | nil => rfl
  | cons pass rest ih =>
    rw [List.cons_append, runFrom, runFrom]
    cases pass.run ctx run.unit with
    | error failure => rfl
    | ok unit =>
      dsimp only
      rw [ih, List.length_cons, Nat.add_assoc, Nat.add_comm 1]

/-- **Passes that go through** leave what they make of the unit, and the ledger with their names. -/
theorem runFrom_of_rewrites (h : Rewrites ctx passes u v) (n : Nat) (l : Ledger) :
    runFrom ctx elapsed n ⟨u, l⟩ passes = .ok ⟨v, l.after elapsed n (passes.map Pass.name)⟩ := by
  induction h generalizing n l with
  | nil => rfl
  | cons first _ ih =>
    rw [runFrom, first]
    exact ih (n + 1) _

/-- **The first pass that fails** gives its name and its failure, whatever stands behind it. -/
theorem runFrom_of_stops {before : List Pass} {pass : Pass} {failure : Pass.Failure}
    (h : Rewrites ctx before u v) (fails : pass.run ctx v = .error failure) (after : List Pass) (n : Nat)
    (l : Ledger) :
    runFrom ctx elapsed n ⟨u, l⟩ (before ++ pass :: after) = .error (.passFailed pass.name failure) := by
  rw [runFrom_append, runFrom_of_rewrites h]
  show runFrom ctx elapsed _ ⟨v, _⟩ (pass :: after) = _
  rw [runFrom, fails]

/-! ## 3. Targets -/

theorem process_eq_ok_iff {t : Target} {root : Node} {run : Run} :
    t.process elapsed root = .ok run ↔
      Rewrites t.context t.passes { root } run.unit ∧ run.ledger = Ledger.after elapsed 0 {} t.passNames := by
  constructor
  · intro ran
    rcases rewrites_or_stops t.context t.passes { root } with
      ⟨v, h⟩ | ⟨stop, failure, before, after, v, split, h, fails⟩
    · rw [process, runFrom_of_rewrites h] at ran
      obtain rfl := Except.ok.inj ran
      exact ⟨h, rfl⟩
    · rw [process, split, runFrom_of_stops h fails] at ran
      cases ran
  · obtain ⟨unit, ledger⟩ := run
    rintro ⟨h, rfl⟩
    exact runFrom_of_rewrites h 0 {}

theorem process_eq_error_iff {t : Target} {root : Node} {e : LoweringError} :
    t.process elapsed root = .error e ↔
      ∃ pass failure, StopsAt t.context t.passes { root } pass failure ∧ e = .passFailed pass.name failure := by
  constructor
  · intro ran
    rcases rewrites_or_stops t.context t.passes { root } with
      ⟨v, h⟩ | ⟨stop, failure, before, after, v, split, h, fails⟩
    · rw [process, runFrom_of_rewrites h] at ran
      cases ran
    · refine ⟨stop, failure, ⟨before, after, v, split, h, fails⟩, ?_⟩
      rw [process, split, runFrom_of_stops h fails] at ran
      exact (Except.error.inj ran).symm
  · rintro ⟨pass, failure, ⟨before, after, v, split, h, fails⟩, rfl⟩
    rw [process, split]
    exact runFrom_of_stops h fails after 0 {}

/-- **What a target does to a tree**, whatever its passes are.  It succeeds exactly if each pass does on what
    those before it left.  A success leaves what the passes make of the tree, all reading the options and
    the platform of the target, and a ledger with their names in order under distinct labels.  A failure is
    that of the first pass that fails, and the passes behind that one have no part in it.  A target cut in
    two does the first part, and then the second on what the first left. -/
theorem process_iff (t : Target) (elapsed : Nat → Duration) (root : Node) :
    let ctx : Pass.Context := ⟨t.options, t.platform⟩
    let start : TranslationUnit := ⟨root, ∅⟩
    ((∃ run, t.process elapsed root = .ok run) ↔
      ∀ before pass after, t.passes = before ++ pass :: after →
        ∃ u v, Rewrites ctx before start u ∧ pass.run ctx u = .ok v) ∧
    (∀ run, t.process elapsed root = .ok run →
      Rewrites ctx t.passes start run.unit ∧ run.ledger.passes = t.passes.map Pass.name ∧
        run.ledger.labels.Nodup) ∧
    (∀ e, t.process elapsed root = .error e ↔
      ∃ pass failure, StopsAt ctx t.passes start pass failure ∧ e = .passFailed pass.name failure) ∧
    (∀ before pass after u failure, t.passes = before ++ pass :: after → Rewrites ctx before start u →
      pass.run ctx u = .error failure → ∀ others,
        Target.process ⟨t.options, t.platform, before ++ pass :: others⟩ elapsed root =
          t.process elapsed root) ∧
    (∀ before after, t.passes = before ++ after →
      t.process elapsed root = (do
        let mid ← Target.process ⟨t.options, t.platform, before⟩ elapsed root
        runFrom ctx elapsed before.length mid after)) := by
  intro ctx start
  refine ⟨?_, fun run ran => ?_, fun e => process_eq_error_iff, ?_, fun before after split => ?_⟩
  · rw [← Pass.exists_rewrites_iff]
    constructor
    · rintro ⟨run, ran⟩
      exact ⟨run.unit, (process_eq_ok_iff.1 ran).1⟩
    · rintro ⟨v, h⟩
      exact ⟨⟨v, _⟩, process_eq_ok_iff.2 ⟨h, rfl⟩⟩
  · obtain ⟨h, ledger⟩ := process_eq_ok_iff.1 ran
    rw [ledger]
    exact ⟨h, Ledger.passes_after .., (Ledger.sound_empty.after elapsed 0 t.passNames).distinct⟩
  · intro before pass after u failure split h fails others
    rw [process, process, split]
    exact (runFrom_of_stops h fails others 0 {}).trans (runFrom_of_stops h fails after 0 {}).symm
  · rw [process, split, runFrom_append, Nat.zero_add]
    rfl

/-- Three passes of which the second refuses: the first is not told of, and the third does not run. -/
example : Target.process ⟨{ blocklevels := some 5 }, .skx, [Pass.simd, Pass.blocking, Pass.mpi]⟩
    (fun n => n) (.iteration "x" []) = .error (.passFailed "blocking" (Pass.tooManyLevels 5)) := rfl

end Target

end LoopLowering
