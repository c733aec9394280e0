/-
  Lowering a tree that was lowered.

  The pipeline of a lowering does not depend on the tree, and its effect is stable.  So a lowering that
  succeeds on one tree succeeds on every tree (`lowerWith_ok_of_ok`), and on its own output it finds
  nothing to add.  In between, the output may be written and read: lowering keeps the height of a tree,
  and a tree that was read is not too high to be read again (`lower_again`).
-/
import LoopLowering.Proofs.Lowering.Outcome
import LoopLowering.Proofs.Tree.Text

namespace LoopLowering

namespace Backend

open Override (complaint?)
open Pass (Blocked Effect effects)

/-- **Success does not depend on the tree**, nor on how long the passes take; only the run does. -/
theorem lowerWith_ok_of_ok {l : Lowerer} (hl : l.registry = registry) {root : Node} {p : Platform}
    {request : Option ModeRequest} {o : Options} {ignored : List String} {lowered : Lowered}
    (h : l.lowerWith root p request o ignored = .ok lowered) (l' : Lowerer) (hl' : l'.registry = registry)
    (root' : Node) :
    let names := pipelineOf (isNested p.family.lineage) o request
    ∃ lowered', l'.lowerWith root' p request o ignored = .ok lowered' ∧
      lowered'.run =
        ⟨(effects ⟨o, p⟩ names).apply { root := root' }, Ledger.after l'.elapsed 0 {} names⟩ := by
  intro names
  obtain ⟨governed, known, free, -⟩ := of_lowerWith_eq_ok hl rfl h
  rw [lowerWith_eq hl' root' p request o ignored rfl, if_neg governed, known]
  exact ⟨_, if_neg free, rfl⟩

/-- A stable effect keeps the height of a tree. -/
theorem height_apply (e : Effect) (u : TranslationUnit) : (e.apply u).root.height = u.root.height :=
  Node.height_mark e.rule [] u.root

/-- **Lowering again changes nothing.**  The output for a tree that was read from a text can be written and
    read, and lowering it in the same way succeeds with the same tree, headers and labels. -/
theorem lower_again {s : String} {root : Node} (read : Node.read? s = some root) (c : Configuration)
    (elapsed elapsed' : Nat → Duration) (seconds seconds' : Nat → String) (p : Platform)
    (request : Option ModeRequest) (overrides : List Override) {first : Lowered}
    (lowers : (Lowerer.lower ⟨registry, c, elapsed, seconds⟩ root p request overrides).result = .ok first) :
    Node.read? first.run.unit.root.prettyText = some first.run.unit.root ∧
    ∃ second, (Lowerer.lower ⟨registry, c, elapsed', seconds'⟩ first.run.unit.root p request overrides).result =
        .ok second ∧
      second.run.unit.root = first.run.unit.root ∧ second.run.unit.includes = first.run.unit.includes ∧
      second.run.ledger.labels = first.run.ledger.labels := by
  rw [Lowerer.result_lower] at lowers ⊢
  cases complaint : overrides.findSome? complaint? with
  | some e =>
    rw [complaint] at lowers
    cases lowers
  | none =>
    rw [complaint] at lowers
    dsimp only at lowers ⊢
    generalize overrides.foldl Options.set (Options.ofConfiguration c) = o at lowers ⊢
    have again := lowerWith_ok_of_ok rfl lowers
    obtain ⟨same, hsame, run⟩ := again ⟨registry, c, elapsed, seconds⟩ rfl root
    obtain rfl : first = same := Except.ok.inj (lowers.symm.trans hsame)
    obtain ⟨second, hsecond, run'⟩ := again ⟨registry, c, elapsed', seconds'⟩ rfl first.run.unit.root
    dsimp only at run run'
    generalize pipelineOf (isNested p.family.lineage) o request = names at run run'
    have unit : first.run.unit = (effects ⟨o, p⟩ names).apply { root } := congrArg Run.unit run
    have unit' : second.run.unit = first.run.unit := by
      rw [run', unit]
      exact Effect.apply_again (Effect.stable_all fun _ => Pass.stable_of_mem) { root }
    have readable : first.run.unit.root.height ≤ Node.maxHeight := by
      rw [unit, height_apply]
      exact Node.height_of_read? read
    have labels : second.run.ledger.labels = first.run.ledger.labels := by
      rw [run', run]
      exact Ledger.labels_after rfl rfl
    exact ⟨(Node.read?_prettyText _).trans (if_pos readable), second, hsecond,
      congrArg TranslationUnit.root unit', congrArg TranslationUnit.includes unit', labels⟩

/-- Two nested loops, read from arrays, and lowered with both kinds of parallelism for a processor with
    two levels of it: the second lowering leaves what the first did. -/
theorem lower_again_nest :
    let text := "[[\"callable\", \"f\"], [], [[[\"iteration\", \"x\", 64], [], " ++
      "[[[\"iteration\", \"y\"], [\"vectorized\"]]]]]]"
    let root : Node := .callable "f" [⟨.iteration "x" (some 64), ∅,
      [⟨.iteration "y" none, .ofList [.vectorized], []⟩]⟩]
    let overrides : List Override :=
      [("openmp", .bool true), ("mpi", .bool true), ("blocklevels", .int 2)]
    let lower := fun elapsed root =>
      (Lowerer.lower ⟨registry, {}, elapsed, fun n => toString n⟩ root .knl
        (some (.name "advanced")) overrides).result
    Node.read? text = some root ∧ ∃ first, lower (fun _ => 0) root = .ok first ∧
      Node.read? first.run.unit.root.prettyText = some first.run.unit.root ∧
      ∃ second, lower (fun n => n) first.run.unit.root = .ok second ∧
        second.run.unit.root = first.run.unit.root ∧ second.run.unit.includes = first.run.unit.includes ∧
        second.run.ledger.labels = first.run.ledger.labels := by
  intro text root overrides lower
  have read : Node.read? text = some root := by decide +kernel
  obtain ⟨first, lowers⟩ : ∃ first, lower (fun _ => 0) root = .ok first := ⟨_, rfl⟩
  exact ⟨read, first, lowers, lower_again read {} _ _ _ _ .knl _ overrides lowers⟩

end Backend

end LoopLowering
