/-
  What lowering on the processor back end comes to.

  1.  GOVERNMENT.  Two classes are registered, and the lineage of a platform is searched for them from the
      most specific class on.  A lineage need not make sense, so what counts is which of the two it names
      first (`isNested`), and whether it names any (`Ungoverned`).

  2.  PIPELINES.  A request and the merged options give a list of names (`pipelineOf`).  Whether that
      list comes from a mode of the class or from the names that the mode spells, the target is the one
      of the list (`target_eq`).

  3.  OUTCOMES.  The errors come in a fixed order: the first unsuitable override, an ungoverned platform,
      the first unknown name, too many levels of blocking.  A lowering without any of them performs the
      effects of its pipeline (`lower_outcome`).
-/
import LoopLowering.Backend
import LoopLowering.Lowering
import LoopLowering.Proofs.Options.Merging
import LoopLowering.Proofs.Pass.Sequence

namespace LoopLowering

open Override (expected? complaint?)

/-- A lowering complains of its overrides, or goes on with the options that they make. -/
theorem Lowerer.result_lower (l : Lowerer) (root : Node) (p : Platform) (request : Option ModeRequest)
    (overrides : List Override) :
    (l.lower root p request overrides).result =
      match overrides.findSome? complaint? with
      | some e => .error (.invalidOption e)
      | none =>
        l.lowerWith root p request (overrides.foldl Options.set (Options.ofConfiguration l.configuration))
          ((overrides.map Prod.fst).filter fun key => (expected? key).isNone) := by
  have merged := Options.merge_result (Options.ofConfiguration l.configuration) overrides
  cases complaint : overrides.findSome? complaint? with
  | some e =>
    rw [complaint] at merged
    rw [lower, merged]
  | none =>
    rw [complaint] at merged
    rw [lower, merged, Options.merge_ignored_of_fine _ complaint]
    dsimp only
    cases l.lowerWith root p request _ _ <;> rfl

/-- A lowering with merged options that succeeds has run the target of its mode, and gives back what it was given
    and the report on its ledger. -/
theorem Lowerer.of_lowerWith {l : Lowerer} {root : Node} {p : Platform} {request : Option ModeRequest}
    {o : Options} {ignored : List String} {lowered : Lowered}
    (lowers : l.lowerWith root p request o ignored = .ok lowered) :
    (∃ target, l.target (Mode.resolve request o) o p = .ok target ∧
      target.process l.elapsed root = .ok lowered.run) ∧
      lowered.options = o ∧ lowered.ignored = ignored ∧
      lowered.profile = lowered.run.ledger.profile l.configuration.profiling l.seconds := by
  simp only [lowerWith, bind, Except.bind] at lowers
  split at lowers
  · cases lowers
  · rename_i target made
    split at lowers
    · cases lowers
    · rename_i run ran
      obtain rfl := Except.ok.inj lowers
      exact ⟨⟨target, made, ran⟩, rfl, rfl, rfl⟩

/-- A lowering with merged options that fails got no target for its mode, or the target failed. -/
theorem Lowerer.of_lowerWith_eq_error {l : Lowerer} {root : Node} {p : Platform} {request : Option ModeRequest}
    {o : Options} {ignored : List String} {e : LoweringError}
    (fails : l.lowerWith root p request o ignored = .error e) :
    l.target (Mode.resolve request o) o p = .error e ∨
      ∃ target, l.target (Mode.resolve request o) o p = .ok target ∧
        target.process l.elapsed root = .error e := by
  simp only [lowerWith, bind, Except.bind] at fails
  split at fails
  · rename_i refused
    obtain rfl := Except.error.inj fails
    exact Or.inl refused
  · rename_i target made
    split at fails
    · rename_i stopped
      obtain rfl := Except.error.inj fails
      exact Or.inr ⟨target, made, stopped⟩
    · cases fails

namespace Backend

open LoopLowering.Text

/-! ## 1. Government -/

/-- The lineage names no registered class. -/
def Ungoverned (lineage : List String) : Prop := "cpu64" ∉ lineage ∧ "intel64-knl" ∉ lineage

instance (lineage : List String) : Decidable (Ungoverned lineage) := inferInstanceAs (Decidable (_ ∧ _))

/-- The lineage names the class with two levels of parallelism before the other, which may be missing. -/
def isNested (lineage : List String) : Bool :=
  decide (lineage.idxOf "intel64-knl" < lineage.idxOf "cpu64")

/-- The registration of one or two levels. -/
def entry (nested : Bool) : Registry.Entry := ⟨if nested then .intel64Knl else .cpu64, modes nested⟩

theorem entries_registry : registry.entries = [entry false, entry true] := rfl

theorem find?_registry (tag : String) :
    registry.find? tag =
      if tag = "cpu64" then some (entry false)
      else if tag = "intel64-knl" then some (entry true)
      else none := by
  rw [Registry.find?, entries_registry, List.find?_cons, List.find?_cons, List.find?_nil]
  by_cases h : tag = "cpu64"
  · rw [if_pos h, h]
    rfl
  · have one : decide ((entry false).family.tag = tag) = false := decide_eq_false fun e => h e.symm
    rw [if_neg h, one]
    by_cases h' : tag = "intel64-knl"
    · rw [if_pos h', h']
      rfl
    · have two : decide ((entry true).family.tag = tag) = false := decide_eq_false fun e => h' e.symm
      rw [if_neg h', two]

/-- The first registered class of a lineage governs. -/
theorem findSome?_find? (lineage : List String) :
    lineage.findSome? registry.find? =
      if Ungoverned lineage then none else some (entry (isNested lineage)) := by
  induction lineage with
  | nil => rfl
  | cons tag rest ih =>
    rw [List.findSome?_cons, find?_registry]
    by_cases one : tag = "cpu64"
    · have nested : isNested (tag :: rest) = false := by
        rw [isNested, one]
        simp
      rw [if_pos one, if_neg fun h : Ungoverned (tag :: rest) => h.1 (one ▸ List.mem_cons_self), nested]
    · rw [if_neg one]
      by_cases two : tag = "intel64-knl"
      · have nested : isNested (tag :: rest) = true := by
          rw [isNested, two, List.idxOf_cons, List.idxOf_cons]
          exact decide_eq_true (Nat.succ_pos _)
        rw [if_pos two, if_neg fun h : Ungoverned (tag :: rest) => h.2 (two ▸ List.mem_cons_self), nested]
      · have same : Ungoverned (tag :: rest) ↔ Ungoverned rest := by
          simp [Ungoverned, Ne.symm one, Ne.symm two]
        have nested : isNested (tag :: rest) = isNested rest := by
          rw [isNested, List.idxOf_cons, List.idxOf_cons, beq_eq_false_iff_ne.2 one,
            beq_eq_false_iff_ne.2 two]
          exact decide_eq_decide.2 Nat.succ_lt_succ_iff
        rw [if_neg two, nested]
        simp only [same]
        exact ih

/-! ## 2. Pipelines -/

/-- The names that a request and options lead to. -/
def pipelineOf (nested : Bool) (o : Options) : Option ModeRequest → List String
  | none => []
  | some (.passes names) => names
  | some (.name name) =>
    let mpi := if o.mpi then ["mpi"] else []
    if name = "noop" then mpi ++ (if o.openmp then ["openmp"] else [])
    else if name = "advanced" then
      ["denormals", "simd", "blocking"] ++
        (if o.openmp then [if nested then "openmp-nested" else "openmp"] else []) ++ mpi
    else commaList name

theorem standard_modes (nested : Bool) :
    (modes nested).standard =
      [(.named noop, fun o p => .ok (Target.noop o p)), (.named advanced, pipeline (fullPipeline nested)),
        (.parallel ⟨true, false⟩, pipeline fun _ => ["mpi"]),
        (.parallel ⟨false, true⟩, pipeline fun _ => ["openmp"]),
        (.parallel ⟨true, true⟩, pipeline fun _ => ["mpi", "openmp"])] := rfl

theorem get?_noop (nested : Bool) :
    (modes nested).get? (.named noop) = some fun o p => .ok (Target.noop o p) := rfl

theorem get?_advanced (nested : Bool) :
    (modes nested).get? (.named advanced) = some (pipeline (fullPipeline nested)) := rfl

/-- A name that is no mode of the class is not filed. -/
theorem get?_named (nested : Bool) {name : String} (h : name ≠ noop) (h' : name ≠ advanced) :
    (modes nested).get? (.named name) = none := by
  simp [ModeMap.get?, standard_modes, Ne.symm h, Ne.symm h']

theorem get?_parallel (nested : Bool) {p : Parallelism} (h : p.isEmpty = false) :
    (modes nested).get? (.parallel p) = some (pipeline fun _ => p.flags) := by
  obtain ⟨mpi, openmp⟩ := p
  cases mpi <;> cases openmp
  · cases h
  · rfl
  · rfl
  · rfl

section Governed

variable {l : Lowerer} {p : Platform} {nested : Bool} (governs : l.registry.govern? p = some (entry nested))
include governs

/-- A mode that is filed under its key is made by what is filed. -/
theorem target_filed (mode : Mode) {key : ModeKey} {factory : Factory} (hkey : mode.key? = some key)
    (filed : (modes nested).get? key = some factory) (o : Options) : l.target mode o p = factory o p := by
  have found : mode.key?.bind (l.registry.factory? p) = some factory := by
    rw [hkey, Option.bind_some, Registry.factory?, governs, Option.bind_some]
    exact filed
  rw [Lowerer.target, found]

/-- A mode that is not filed is made from the names it spells. -/
theorem target_unfiled (mode : Mode) (unfiled : mode.key?.bind (modes nested).get? = none) (o : Options) :
    l.target mode o p = Target.custom mode.passes o p .processor := by
  have missing : mode.key?.bind (l.registry.factory? p) = none := by
    rw [show l.registry.factory? p = (modes nested).get? from funext fun key => by
      rw [Registry.factory?, governs]; rfl]
    exact unfiled
  have custom : l.registry.fetchCustom p = .ok sequence := by
    rw [Registry.fetchCustom, Registry.customFactory?, governs]
    rfl
  rw [Lowerer.target, missing, custom]
  rfl

/-- Either way the target is that of the pipeline. -/
theorem target_of_govern? (request : Option ModeRequest) (o : Options) :
    l.target (Mode.resolve request o) o p = Target.custom (pipelineOf nested o request) o p .processor := by
  cases request with
  | none => exact target_filed governs (.known noop) rfl (get?_noop nested) o
  | some request =>
    cases request with
    | passes names => exact target_unfiled governs (.custom names) rfl o
    | name name =>
      by_cases plain : name = noop
      · by_cases off : (Parallelism.ofOptions o).isEmpty = true
        · have mode : Mode.resolve (some (.name name)) o = .known noop := by
            rw [Mode.resolve, plain]
            simp [off]
          have switches : o.mpi = false ∧ o.openmp = false := by
            simpa [Parallelism.isEmpty, Parallelism.ofOptions] using off
          have idle : pipelineOf nested o (some (.name name)) = [] := by
            rw [pipelineOf, plain, switches.1, switches.2]
            rfl
          rw [mode, idle]
          exact target_filed governs (.known noop) rfl (get?_noop nested) o
        · have mode : Mode.resolve (some (.name name)) o = .parallel (.ofOptions o) := by
            rw [Mode.resolve, plain]
            simp [off]
          have flags : pipelineOf nested o (some (.name name)) = (Parallelism.ofOptions o).flags := by
            rw [pipelineOf, plain]
            rfl
          rw [mode, flags]
          exact target_filed governs (.parallel _) rfl (get?_parallel nested (Bool.not_eq_true _ ▸ off)) o
      · have mode : Mode.resolve (some (.name name)) o = .known name := by
          rw [Mode.resolve, if_neg fun h => plain h.1]
        rw [mode]
        by_cases full : name = advanced
        · have names : pipelineOf nested o (some (.name name)) = fullPipeline nested o := by
            rw [pipelineOf, full, fullPipeline, List.append_assoc]
            cases nested <;> rfl
          rw [names, full]
          exact target_filed governs (.known advanced) rfl (get?_advanced nested) o
        · have names : pipelineOf nested o (some (.name name)) = commaList name := by
            rw [pipelineOf]
            exact (if_neg plain).trans (if_neg full)
          rw [names]
          exact target_unfiled governs (.known name) (get?_named nested plain full) o

end Governed

/-- **The target of a lowering is that of its pipeline**, if its platform is governed at all. -/
theorem target_eq {l : Lowerer} (hl : l.registry = registry) (request : Option ModeRequest) (o : Options)
    (p : Platform) :
    l.target (Mode.resolve request o) o p =
      if Ungoverned p.family.lineage then .error (.targetNotFound "custom" p.name)
      else Target.custom (pipelineOf (isNested p.family.lineage) o request) o p .processor := by
  have governs : l.registry.govern? p =
      if Ungoverned p.family.lineage then none else some (entry (isNested p.family.lineage)) := by
    rw [hl]
    exact findSome?_find? p.family.lineage
  by_cases h : Ungoverned p.family.lineage
  · rw [if_pos h] at governs ⊢
    have nothing : (Mode.resolve request o).key?.bind (l.registry.factory? p) = none := by
      cases (Mode.resolve request o).key? with
      | none => rfl
      | some key =>
        show l.registry.factory? p key = none
        rw [Registry.factory?, governs]
        rfl
    have custom : l.registry.fetchCustom p = .error (.targetNotFound "custom" p.name) := by
      rw [Registry.fetchCustom, Registry.customFactory?, governs]
      rfl
    rw [Lowerer.target, nothing, custom]
    rfl
  · rw [if_neg h] at governs ⊢
    exact target_of_govern? governs request o

/-! ## 3. Outcomes -/

open Pass (Library Blocked effects tooManyLevels)

/-- What lowering with merged options comes to. -/
theorem lowerWith_eq {l : Lowerer} (hl : l.registry = registry) (root : Node) (p : Platform)
    (request : Option ModeRequest) (o : Options) (ignored : List String) {names : List String}
    (hnames : pipelineOf (isNested p.family.lineage) o request = names) :
    l.lowerWith root p request o ignored =
      if Ungoverned p.family.lineage then .error (.targetNotFound "custom" p.name)
      else match names.find? fun x => x ∉ Library.processor.names with
        | some x => .error (.unknownPass ⟨x, p.name⟩)
        | none =>
          if Blocked ⟨o, p⟩ names then
            .error (.passFailed "blocking" (tooManyLevels (Pass.Context.blockLevels ⟨o, p⟩)))
          else
            let run : Run := ⟨(effects ⟨o, p⟩ names).apply { root }, Ledger.after l.elapsed 0 {} names⟩
            .ok ⟨run, Mode.resolve request o, o, ignored,
              run.ledger.profile l.configuration.profiling l.seconds⟩ := by
  rw [Lowerer.lowerWith, target_eq hl, hnames]
  by_cases h : Ungoverned p.family.lineage
  · rw [if_pos h, if_pos h]
    rfl
  · rw [if_neg h, if_neg h]
    cases unknown : names.find? fun x => x ∉ Library.processor.names with
    | some x =>
      rw [Target.custom, Library.resolve_eq_error unknown]
      rfl
    | none =>
      have known : ∀ x ∈ names, x ∈ Library.processor.names := by
        simpa using List.find?_eq_none.1 unknown
      obtain ⟨t, made, runs⟩ := Pass.process_custom_eq known o p
      rw [made]
      show (do let run ← t.process l.elapsed root; _) = _
      rw [runs]
      by_cases blocked : Blocked ⟨o, p⟩ names
      · rw [if_pos blocked]
        exact (if_pos blocked).symm
      · rw [if_neg blocked]
        exact (if_neg blocked).symm

/-- Lowering with merged options that succeeds met none of the errors. -/
theorem of_lowerWith_eq_ok {l : Lowerer} (hl : l.registry = registry) {root : Node} {p : Platform}
    {request : Option ModeRequest} {o : Options} {ignored : List String} {names : List String}
    (hnames : pipelineOf (isNested p.family.lineage) o request = names) {lowered : Lowered}
    (h : l.lowerWith root p request o ignored = .ok lowered) :
    ¬ Ungoverned p.family.lineage ∧ (names.find? fun x => x ∉ Library.processor.names) = none ∧
      ¬ Blocked ⟨o, p⟩ names ∧ lowered.options = o ∧
      lowered.run = ⟨(effects ⟨o, p⟩ names).apply { root }, Ledger.after l.elapsed 0 {} names⟩ := by
  rw [lowerWith_eq hl root p request o ignored hnames] at h
  by_cases ungoverned : Ungoverned p.family.lineage
  · rw [if_pos ungoverned] at h
    cases h
  · rw [if_neg ungoverned] at h
    cases unknown : names.find? fun x => x ∉ Library.processor.names with
    | some x =>
      rw [unknown] at h
      cases h
    | none =>
      rw [unknown] at h
      dsimp only at h
      by_cases blocked : Blocked ⟨o, p⟩ names
      · rw [if_pos blocked] at h
        cases h
      · rw [if_neg blocked] at h
        obtain rfl := Except.ok.inj h
        exact ⟨ungoverned, rfl, blocked, rfl, rfl⟩

/-- A lowering that succeeds performs the effects of a pipeline under the options that it reports. -/
theorem unit_of_lower {c : Configuration} {elapsed : Nat → Duration} {seconds : Nat → String} {root : Node}
    {p : Platform} {request : Option ModeRequest} {overrides : List Override} {lowered : Lowered}
    (lowers : (Lowerer.lower ⟨registry, c, elapsed, seconds⟩ root p request overrides).result = .ok lowered) :
    lowered.run.unit = (effects ⟨lowered.options, p⟩
      (pipelineOf (isNested p.family.lineage) lowered.options request)).apply { root } := by
  rw [Lowerer.result_lower] at lowers
  cases complaint : overrides.findSome? Override.complaint? with
  | some e =>
    rw [complaint] at lowers
    cases lowers
  | none =>
    rw [complaint] at lowers
    obtain ⟨-, -, -, options, run⟩ := of_lowerWith_eq_ok rfl rfl lowers
    rw [options, run]

/-- **The outcome of a lowering**, in the order in which it is decided: the first unsuitable override, a
    platform without a registered class, the first unknown name of the pipeline, too many levels of
    blocking, and otherwise the tree with the effects of the pipeline. -/
theorem lower_outcome (c : Configuration) (elapsed : Nat → Duration) (seconds : Nat → String) (root : Node)
    (p : Platform) (request : Option ModeRequest) (overrides : List Override) :
    let result := (Lowerer.lower ⟨registry, c, elapsed, seconds⟩ root p request overrides).result
    match overrides.findSome? complaint? with
    | some e => result = .error (.invalidOption e)
    | none =>
      let o := overrides.foldl Options.set (Options.ofConfiguration c)
      let names := pipelineOf (isNested p.family.lineage) o request
      let levels := o.blocklevels.getD p.blockLevels
      if "cpu64" ∉ p.family.lineage ∧ "intel64-knl" ∉ p.family.lineage then
        result = .error (.targetNotFound "custom" p.name)
      else match names.find? fun x =>
          x ∉ ["denormals", "simd", "blocking", "openmp", "openmp-nested", "mpi"] with
        | some x => result = .error (.unknownPass ⟨x, p.name⟩)
        | none =>
          if "blocking" ∈ names ∧ 4 < levels.toNat then
            result = .error (.passFailed "blocking" (tooManyLevels levels))
          else ∃ lowered, result = .ok lowered ∧
            lowered.run.unit = (effects ⟨o, p⟩ names).apply { root } ∧ lowered.run.ledger.passes = names ∧
            lowered.mode = Mode.resolve request o ∧ lowered.options = o ∧
            lowered.ignored = (overrides.map Prod.fst).filter fun key => (expected? key).isNone := by
  intro result
  have outcome := Lowerer.result_lower ⟨registry, c, elapsed, seconds⟩ root p request overrides
  cases complaint : overrides.findSome? complaint? with
  | some e =>
    rw [complaint] at outcome
    exact outcome
  | none =>
    rw [complaint] at outcome
    dsimp only at outcome ⊢
    generalize overrides.foldl Options.set (Options.ofConfiguration c) = o at outcome ⊢
    have outcome : result = _ := outcome.trans (lowerWith_eq rfl root p request o _ rfl)
    generalize pipelineOf (isNested p.family.lineage) o request = names at outcome ⊢
    have library : Library.processor.names =
        ["denormals", "simd", "blocking", "openmp", "openmp-nested", "mpi"] := by decide
    rw [library] at outcome
    by_cases ungoverned : Ungoverned p.family.lineage
    · rw [if_pos ungoverned] at outcome
      exact (if_pos ungoverned).mpr outcome
    · rw [if_neg ungoverned] at outcome
      refine (if_neg ungoverned).mpr ?_
      cases unknown : names.find? fun x =>
          x ∉ ["denormals", "simd", "blocking", "openmp", "openmp-nested", "mpi"] with
      | some x =>
        rw [unknown] at outcome
        exact outcome
      | none =>
        rw [unknown] at outcome
        by_cases blocked : Blocked ⟨o, p⟩ names
        · exact (if_pos blocked).mpr (outcome.trans (if_pos blocked))
        · exact (if_neg blocked).mpr
            ⟨_, outcome.trans (if_neg blocked), rfl, Ledger.passes_after .., rfl, rfl, rfl⟩

end Backend

end LoopLowering
