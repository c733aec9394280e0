/-
  Dispatch: which factory a lowering calls.

  A factory is a function here, but the factories of a program may do more than answer: they may count, or
  write to a log.  So it matters which of them are called, with what, and how often.

  1.  CALLS.  A call is a factory with all that it is given.  `lowerBy` lowers a tree and leaves the calls to
      a CALLER, which may have any effects.  With the caller that has none it is `lower` (`lowerBy_plain`).

  2.  ONE CALL.  A mode leads to one call at most (`Registry.call?`), and whatever the caller's effects are,
      lowering has those of that call alone (`lowerBy_eq`).  So a caller that takes notes notes
      one call, and changes nothing else (`run_lowerBy_noting`).

  3.  REGISTRIES.  Where a tag of the lineage is registered there is an entry that governs, and it has the
      modes that every class provides, since registration sees to that (`get?_of_required`).
-/
import LoopLowering.Proofs.Registry.Registering

namespace LoopLowering

/-! ## 1. Calls -/

/-- A call of a factory. -/
inductive Call where
  /-- Of a standard factory. -/
  | standard (factory : Factory) (o : Options) (p : Platform)
  /-- Of a factory for explicit sequences. -/
  | sequence (factory : CustomFactory) (names : List String) (o : Options) (p : Platform)

/-- What the factory answers. -/
def Call.answer : Call → Except LoweringError Target
  | standard factory o p => factory o p
  | sequence factory names o p => factory names o p

/-- A way to make calls, with any effects. -/
abbrev Caller (m : Type → Type) := Call → m (Except LoweringError Target)

namespace Lowerer

section Calling

variable {m : Type → Type} [Monad m] (call : Caller m) (l : Lowerer)

/-- Makes the target of the names that a mode spells. -/
def sequenceBy (mode : Mode) (o : Options) (p : Platform) : m (Except LoweringError Target) :=
  match l.registry.fetchCustom p with
  | .ok factory => call (.sequence factory mode.passes o p)
  | .error e => return .error e

/-- Makes the target of an effective mode. -/
def targetBy (mode : Mode) (o : Options) (p : Platform) : m (Except LoweringError Target) :=
  match mode.key? with
  | none => l.sequenceBy call mode o p
  | some key =>
    match l.registry.fetch p key with
    | .ok factory => call (.standard factory o p)
    -- Only a key that is not found leads on; what a factory answers is never looked at.
    | .error (.targetNotFound ..) => l.sequenceBy call mode o p
    | .error e => return .error e

/-- What the answer of a factory comes to on a tree. -/
def finish (root : Node) (mode : Mode) (o : Options) (ignored : List String)
    (made : Except LoweringError Target) : Except LoweringError Lowered := do
  let target ← made
  let run ← target.process l.elapsed root
  return ⟨run, mode, o, ignored, run.ledger.profile l.configuration.profiling l.seconds⟩

/-- The outcome of a lowering that has warned of the keys it ignored. -/
def conclude (ignored : List String) (result : Except LoweringError Lowered) : Outcome :=
  let warnings := ignored.map Event.optionIgnored
  match result with
  | .error e => ⟨warnings, .error e⟩
  | .ok lowered => ⟨warnings ++ [.profile lowered.profile], .ok lowered⟩

/-- Lowers a tree, and leaves the calls of factories to the caller. -/
def lowerBy (root : Node) (p : Platform) (request : Option ModeRequest) (overrides : List Override) :
    m Outcome := do
  let merge := (Options.ofConfiguration l.configuration).merge overrides
  match merge.result with
  | .error e => return conclude merge.ignored (.error (.invalidOption e))
  | .ok o =>
    let mode := Mode.resolve request o
    let made ← l.targetBy call mode o p
    return conclude merge.ignored (l.finish root mode o merge.ignored made)

end Calling

end Lowerer

/-! ## 2. One call -/

/-- The call that a mode leads to, if there is a factory to call. -/
def Registry.call? (r : Registry) (mode : Mode) (o : Options) (p : Platform) : Option Call :=
  match mode.key?.bind (r.factory? p) with
  | some factory => some (.standard factory o p)
  | none => (r.customFactory? p).map fun factory => .sequence factory mode.passes o p

namespace Lowerer

section OneCall

variable {m : Type → Type} [Monad m] (call : Caller m) (l : Lowerer)

/-- Makes the call that there is, or complains that there is none. -/
def callBy (p : Platform) : Option Call → m (Except LoweringError Target)
  | some c => call c
  | none => return .error (.targetNotFound customWord p.name)

theorem sequenceBy_eq (mode : Mode) (o : Options) (p : Platform) :
    l.sequenceBy call mode o p =
      callBy call p ((l.registry.customFactory? p).map fun factory => .sequence factory mode.passes o p) := by
  rw [sequenceBy, Registry.fetchCustom]
  cases l.registry.customFactory? p <;> rfl

theorem targetBy_eq (mode : Mode) (o : Options) (p : Platform) :
    l.targetBy call mode o p = callBy call p (l.registry.call? mode o p) := by
  rw [targetBy, Registry.call?]
  cases mode.key? with
  | none => exact sequenceBy_eq call l mode o p
  | some key =>
    dsimp only [Option.bind_some]
    rw [Registry.fetch]
    cases l.registry.factory? p key with
    | none => exact sequenceBy_eq call l mode o p
    | some factory => rfl

/-- **A lowering has the effects of one call**, and what comes after the call has none. -/
theorem lowerBy_eq {root : Node} {p : Platform} {request : Option ModeRequest} {overrides : List Override}
    {o : Options} (merged : ((Options.ofConfiguration l.configuration).merge overrides).result = .ok o) :
    let mode := Mode.resolve request o
    let ignored := ((Options.ofConfiguration l.configuration).merge overrides).ignored
    l.lowerBy call root p request overrides = (do
      let made ← callBy call p (l.registry.call? mode o p)
      return conclude ignored (l.finish root mode o ignored made)) := by
  intro mode ignored
  rw [← targetBy_eq, lowerBy, merged]

end OneCall

/-- The caller that only calls. -/
def plain : Caller Id := fun c => c.answer

/-- The caller that takes notes. -/
def noting : Caller (StateM (List Call)) := fun c => do
  modify (· ++ [c])
  return c.answer

/-- The target of a mode is the answer to its call. -/
theorem target_eq_callBy (l : Lowerer) (mode : Mode) (o : Options) (p : Platform) :
    l.target mode o p = (callBy plain p (l.registry.call? mode o p)).run := by
  rw [target, Registry.call?, Registry.fetchCustom]
  cases mode.key?.bind (l.registry.factory? p) with
  | some factory => rfl
  | none => cases l.registry.customFactory? p <;> rfl

theorem result_conclude (ignored : List String) (result : Except LoweringError Lowered) :
    (conclude ignored result).result = result := by
  cases result <;> rfl

section Merged

variable {l : Lowerer} {overrides : List Override} {o : Options}
  (merged : ((Options.ofConfiguration l.configuration).merge overrides).result = .ok o)
include merged

/-- A lowering ends as the answer to its call lets it. -/
theorem lower_eq_conclude (root : Node) (p : Platform) (request : Option ModeRequest) :
    let mode := Mode.resolve request o
    let ignored := ((Options.ofConfiguration l.configuration).merge overrides).ignored
    l.lower root p request overrides =
      conclude ignored (l.finish root mode o ignored (callBy plain p (l.registry.call? mode o p)).run) := by
  intro mode ignored
  rw [← target_eq_callBy, lower, merged]
  rfl

/-- **Taking notes changes nothing**, and notes the one call. -/
theorem run_lowerBy_noting (root : Node) (p : Platform) (request : Option ModeRequest) (calls : List Call) :
    (l.lowerBy noting root p request overrides).run calls =
      (l.lower root p request overrides, calls ++ (l.registry.call? (Mode.resolve request o) o p).toList) := by
  rw [lowerBy_eq noting l merged, lower_eq_conclude merged]
  cases l.registry.call? (Mode.resolve request o) o p with
  | none =>
    rw [Option.toList_none, List.append_nil]
    rfl
  | some c => rfl

end Merged

/-- **Without effects it is lowering.** -/
theorem lowerBy_plain (l : Lowerer) (root : Node) (p : Platform) (request : Option ModeRequest)
    (overrides : List Override) :
    (l.lowerBy plain root p request overrides).run = l.lower root p request overrides := by
  cases merged : ((Options.ofConfiguration l.configuration).merge overrides).result with
  | error e =>
    rw [lowerBy, lower, merged]
    rfl
  | ok o =>
    rw [lowerBy_eq plain l merged, lower_eq_conclude merged]
    rfl

end Lowerer

/-! ## 3. Registries -/

namespace Registry

/-- Where a tag of the lineage is registered, an entry governs. -/
theorem exists_govern? {r : Registry} {p : Platform} {tag : String} (onLineage : tag ∈ p.family.lineage)
    (registered : tag ∈ r.entries.map fun e => e.family.tag) : ∃ e ∈ r.entries, r.govern? p = some e := by
  obtain ⟨e, he, htag⟩ := List.mem_map.1 registered
  have found : (r.find? tag).isSome = true := by
    rw [find?, List.find?_isSome]
    exact ⟨e, he, decide_eq_true htag⟩
  have governed : (r.govern? p).isSome = true := by
    rw [govern?, List.findSome?_isSome_iff]
    exact ⟨tag, onLineage, found⟩
  obtain ⟨g, hg⟩ := Option.isSome_iff_exists.1 governed
  obtain ⟨other, -, hother⟩ := List.exists_of_findSome?_eq_some hg
  exact ⟨g, List.mem_of_find?_eq_some hother, hg⟩

/-- Any entry of a registry has the modes that every class provides. -/
theorem get?_of_required {history : List Registration} {e : Entry} (he : e ∈ (ofHistory history).entries)
    {mode : String} (required : mode ∈ requiredModes) : ∃ factory, e.modes.get? (.named mode) = some factory := by
  have sound : (history.foldl Builder.attempt {}).Sound := Builder.sound_empty.foldl_attempt history
  exact Option.isSome_iff_exists.1 (sound.complete e he mode required)

/-- The call that a mode leads to, told from the entry that governs. -/
theorem call?_eq (r : Registry) (mode : Mode) (o : Options) (p : Platform) :
    r.call? mode o p =
      match (r.govern? p).bind fun e => mode.key?.bind e.modes.get? with
      | some factory => some (.standard factory o p)
      | none => ((r.govern? p).bind fun e => e.modes.custom).map fun factory =>
          .sequence factory mode.passes o p := by
  have filed : mode.key?.bind (r.factory? p) = (r.govern? p).bind fun e => mode.key?.bind e.modes.get? := by
    cases mode.key? with
    | none => cases r.govern? p <;> rfl
    | some key => rfl
  rw [call?, filed]
  rfl

end Registry

namespace Lowerer

/-- **Which factory a lowering calls.**  Where the entry that governs the platform files a factory under the
    key of the effective mode, that factory is called once, with the merged options and the platform, and
    no other is; what it fails with, the lowering fails with.  Otherwise the factory for explicit sequences of
    that entry is called once, with the names that the mode spells, or nothing is called.

    A mode that every class provides is never taken for a sequence where a tag of the lineage is registered. -/
theorem lower_dispatch (history : List Registry.Registration) (c : Configuration) (elapsed : Nat → Duration)
    (seconds : Nat → String) (root : Node) (p : Platform) (request : Option ModeRequest)
    (overrides : List Override) {o : Options}
    (merged : ((Options.ofConfiguration c).merge overrides).result = .ok o) :
    let r := Registry.ofHistory history
    let l : Lowerer := ⟨r, c, elapsed, seconds⟩
    let mode := Mode.resolve request o
    let finish := l.finish root mode o ((Options.ofConfiguration c).merge overrides).ignored
    let outcome := l.lower root p request overrides
    ∃ calls, (l.lowerBy noting root p request overrides).run [] = (outcome, calls) ∧
      (match (r.govern? p).bind fun e => mode.key?.bind e.modes.get? with
        | some factory =>
          calls = [.standard factory o p] ∧ outcome.result = finish (factory o p) ∧
            ∀ e, factory o p = .error e → outcome.result = .error e
        | none =>
          match (r.govern? p).bind fun e => e.modes.custom with
          | some factory =>
            calls = [.sequence factory mode.passes o p] ∧ outcome.result = finish (factory mode.passes o p)
          | none => calls = [] ∧ outcome.result = .error (.targetNotFound "custom" p.name)) ∧
      ∀ tag ∈ p.family.lineage, tag ∈ (r.entries.map fun e => e.family.tag) →
        ∀ name, name = "noop" ∨ name = "advanced" → mode = .known name →
          ∃ e factory, r.govern? p = some e ∧ e.modes.get? (.named name) = some factory ∧
            calls = [.standard factory o p] := by
  intro r l mode finish outcome
  have result : outcome.result = finish (callBy plain p (r.call? mode o p)).run := by
    show (l.lower root p request overrides).result = _
    rw [lower_eq_conclude merged, result_conclude]
  refine ⟨(r.call? mode o p).toList, run_lowerBy_noting merged root p request [], ?_, ?_⟩
  · rw [result, Registry.call?_eq]
    cases (r.govern? p).bind fun e => mode.key?.bind e.modes.get? with
    | some factory => exact ⟨rfl, rfl, fun e failed => congrArg finish failed⟩
    | none =>
      cases (r.govern? p).bind fun e => e.modes.custom with
      | some factory => exact ⟨rfl, rfl⟩
      | none => exact ⟨rfl, rfl⟩
  · intro tag onLineage registered name required known
    obtain ⟨e, he, governs⟩ := Registry.exists_govern? onLineage registered
    have everywhere : name ∈ requiredModes := by simpa [requiredModes, noop, advanced] using required
    obtain ⟨factory, filed⟩ := Registry.get?_of_required he everywhere
    refine ⟨e, factory, governs, filed, ?_⟩
    have found : ((r.govern? p).bind fun e => mode.key?.bind e.modes.get?) = some factory := by
      rw [governs, known]
      exact filed
    rw [Registry.call?_eq, found]
    rfl

/-- A factory that fails as if it were not there: its own complaint is what the lowering ends with, and the
    factory for sequences, which would serve, is not called. -/
theorem lower_dispatch_failing :
    let idle : Factory := fun o p => .ok (Target.noop o p)
    let failing : Factory := fun _ p => .error (.targetNotFound "turbo" p.name)
    let modes := ((ModeMap.insert {} (.named noop) idle).insert (.named advanced) failing).setCustom fun _ => idle
    let history : List Registry.Registration := [(.cpu64, modes)]
    let l : Lowerer := ⟨Registry.ofHistory history, {}, fun _ => 0, fun n => toString n⟩
    let overrides : List Override := [("openmp", .bool true), ("foobar", .int 1)]
    ((Options.ofConfiguration {}).merge overrides).result = .ok { openmp := true } ∧
    "cpu64" ∈ Platform.skx.family.lineage ∧
    "cpu64" ∈ (l.registry.entries.map fun e => e.family.tag) ∧
    (l.lower (.expression "u = 0") .skx (some (.name "advanced")) overrides).result =
      .error (.targetNotFound "turbo" "skx") ∧
    (∃ outcome, (l.lowerBy noting (.expression "u = 0") .skx (some (.name "advanced")) overrides).run [] =
      (outcome, [.standard failing { openmp := true } .skx])) ∧
    ∃ e factory, l.registry.govern? .skx = some e ∧ e.modes.get? (.named "advanced") = some factory ∧
      [.standard failing { openmp := true } .skx] = [Call.standard factory { openmp := true } .skx] := by
  intro idle failing modes history l overrides
  have merged : ((Options.ofConfiguration {}).merge overrides).result = .ok { openmp := true } := rfl
  have onLineage : "cpu64" ∈ Platform.skx.family.lineage := by decide
  have registered : "cpu64" ∈ (l.registry.entries.map fun e => e.family.tag) := List.mem_singleton.2 rfl
  obtain ⟨calls, noted, ⟨called, -, asIs⟩, standard⟩ := lower_dispatch history {} (fun _ => 0)
    (fun n => toString n) (.expression "u = 0") .skx (some (.name "advanced")) overrides merged
  subst called
  exact ⟨merged, onLineage, registered, asIs _ rfl, ⟨_, noted⟩,
    standard "cpu64" onLineage registered "advanced" (Or.inr rfl) rfl⟩

end Lowerer

end LoopLowering
