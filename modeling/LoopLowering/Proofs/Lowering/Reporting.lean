/-
  What a lowering reports, and when.

  The events of a lowering are a list in its outcome.  Whoever keeps a log hears of them one by one, while the
  lowering goes on and before anybody knows how it will end.

  1.  LISTENING.  `lowerFor` lowers a tree for a LISTENER, which is told each event as it happens and may have any
      effects: of a key when the merge drops it, of the report when the last pass has run.

  2.  THE SAME EVENTS.  The listener hears the events of the outcome, in order and nothing else, and the
      lowering answers as it does without a listener (`lowerFor_eq`).

  3.  WHICH EVENTS.  There are the warnings of the merge, which come first and come even if it fails, and after
      a success one report (`lower_events`).
-/
import LoopLowering.Proofs.Lowering.Outcome

namespace LoopLowering

/-! ## 1. Listening -/

/-- Hears of events as they happen. -/
abbrev Listener (m : Type → Type) := Event → m Unit

section Listening

variable {m : Type → Type} [Monad m] (tell : Listener m)

/-- Merges overrides over options, of which some keys were dropped before, and tells of each key that is dropped. -/
def Options.mergeFor (o : Options) (ignored : List String) :
    List Override → m (Except InvalidOption (Options × List String))
  | [] => return .ok (o, ignored)
  | (key, v) :: rest =>
    match o.override (key, v) with
    | .error e => return .error e
    | .ok (some o) => mergeFor o ignored rest
    | .ok none => do
      tell (.optionIgnored key)
      mergeFor o (ignored ++ [key]) rest

/-- Lowers a tree with options that are already merged, and tells of the report. -/
def Lowerer.lowerWithFor (l : Lowerer) (root : Node) (p : Platform) (request : Option ModeRequest) (o : Options)
    (ignored : List String) : m (Except LoweringError Lowered) :=
  let mode := Mode.resolve request o
  match l.target mode o p with
  | .error e => return .error e
  | .ok target =>
    match target.process l.elapsed root with
    | .error e => return .error e
    | .ok run => do
      let report := run.ledger.profile l.configuration.profiling l.seconds
      tell (.profile report)
      return .ok ⟨run, mode, o, ignored, report⟩

/-- Lowers a tree and tells of events as they happen. -/
def Lowerer.lowerFor (l : Lowerer) (root : Node) (p : Platform) (request : Option ModeRequest)
    (overrides : List Override) : m (Except LoweringError Lowered) := do
  match ← (Options.ofConfiguration l.configuration).mergeFor tell [] overrides with
  | .error e => return .error (.invalidOption e)
  | .ok (o, ignored) => l.lowerWithFor tell root p request o ignored

/-! ## 2. The same events -/

/-- A report is told of after a success only. -/
theorem Lowerer.lowerWithFor_eq (l : Lowerer) (root : Node) (p : Platform) (request : Option ModeRequest)
    (o : Options) (ignored : List String) :
    l.lowerWithFor tell root p request o ignored =
      match l.lowerWith root p request o ignored with
      | .error e => return .error e
      | .ok lowered => do
        tell (.profile lowered.profile)
        return .ok lowered := by
  rw [lowerWithFor, lowerWith]
  cases l.target (Mode.resolve request o) o p with
  | error e => rfl
  | ok target =>
    simp only [bind, Except.bind]
    cases target.process l.elapsed root with
    | error e => rfl
    | ok run => rfl

variable [LawfulMonad m]

/-- A merge tells of the keys that it drops, and answers as it does without a listener. -/
theorem Options.mergeFor_eq (o : Options) (ignored : List String) (overrides : List Override) :
    o.mergeFor tell ignored overrides = (do
      (o.merge overrides).ignored.forM fun key => tell (.optionIgnored key)
      return (o.merge overrides).result.map fun merged => (merged, ignored ++ (o.merge overrides).ignored)) := by
  induction overrides generalizing o ignored with
  | nil => simp [mergeFor, merge, Except.map]
  | cons v rest ih =>
    obtain ⟨key, v⟩ := v
    rw [mergeFor, merge]
    cases o.override (key, v) with
    | error e => simp [Except.map]
    | ok applied =>
      cases applied with
      | some o => exact ih o ignored
      | none =>
        dsimp only
        rw [ih]
        simp

/-- **A listener hears the events of the outcome**, in order and nothing else, and what it does with them does not
    change the result. -/
theorem Lowerer.lowerFor_eq (l : Lowerer) (root : Node) (p : Platform) (request : Option ModeRequest)
    (overrides : List Override) :
    l.lowerFor tell root p request overrides = (do
      (l.lower root p request overrides).events.forM tell
      return (l.lower root p request overrides).result) := by
  rw [lowerFor, Options.mergeFor_eq, lower, bind_assoc]
  generalize (Options.ofConfiguration l.configuration).merge overrides = merge
  obtain ⟨ignored, result⟩ := merge
  cases result with
  | error e => simp [Except.map]
  | ok o =>
    simp only [Except.map, pure_bind, List.nil_append, lowerWithFor_eq]
    cases l.lowerWith root p request o ignored with
    | error e => simp
    | ok lowered => simp

end Listening

/-- The listener that takes notes. -/
def Listener.noting : Listener (StateM (List Event)) := fun e => modify (· ++ [e])

/-! ## 3. Which events -/

/-- Up to the first complaint a merge drops all keys not recognized. -/
theorem Options.merge_ignored_of_complaint (o : Options) {before after : List Override} {bad : Override}
    {e : InvalidOption} (fine : ∀ v ∈ before, Override.complaint? v = none)
    (complaint : Override.complaint? bad = some e) :
    (o.merge (before ++ bad :: after)).ignored =
      (before.map Prod.fst).filter fun key => (Override.expected? key).isNone := by
  have stop : (bad :: after).takeWhile (fun v => (Override.complaint? v).isNone) = [] := by
    rw [List.takeWhile_cons, complaint]
    rfl
  rw [merge_ignored, List.takeWhile_append_of_pos fun v hv => by rw [fine v hv]; rfl, stop, List.append_nil]

/-- The events are a warning for each key that the merge drops and, after a success, the report. -/
theorem Lowerer.events_lower (l : Lowerer) (root : Node) (p : Platform) (request : Option ModeRequest)
    (overrides : List Override) :
    (l.lower root p request overrides).events =
      ((Options.ofConfiguration l.configuration).merge overrides).ignored.map Event.optionIgnored ++
        match (l.lower root p request overrides).result with
        | .ok lowered => [.profile lowered.profile]
        | .error _ => [] := by
  rw [lower]
  generalize (Options.ofConfiguration l.configuration).merge overrides = merge
  obtain ⟨ignored, result⟩ := merge
  cases result with
  | error e => simp
  | ok o =>
    dsimp only
    cases l.lowerWith root p request o ignored with
    | error e => simp
    | ok lowered => rfl

/-- **What a lowering reports.**  Whatever is registered, whoever listens and however it ends, a lowering first
    warns once of each override whose key is not recognized, in order; if an override does not suit, then of those
    before it.  After that it reports once if it succeeds, and never otherwise.  The report is the one it gives
    back, on the ledger it gives back, and the keys are those it gives back. -/
theorem Lowerer.lower_events {m : Type → Type} [Monad m] [LawfulMonad m] (tell : Listener m) (l : Lowerer)
    (root : Node) (p : Platform) (request : Option ModeRequest) (overrides : List Override) :
    let outcome := l.lower root p request overrides
    let unknown := fun key => decide (key ∉ Override.keys)
    l.lowerFor tell root p request overrides = (do
      outcome.events.forM tell
      return outcome.result) ∧
    ∃ dropped : List String,
      (outcome.events = dropped.map Event.optionIgnored ++
        match outcome.result with
        | .ok lowered => [.profile lowered.profile]
        | .error _ => []) ∧
      (∀ lowered, outcome.result = .ok lowered →
        lowered.profile = lowered.run.ledger.profile l.configuration.profiling l.seconds ∧
        lowered.ignored = dropped) ∧
      ((∀ v ∈ overrides, Override.complaint? v = none) ∧ dropped = (overrides.map Prod.fst).filter unknown ∨
        ∃ before bad after e, overrides = before ++ bad :: after ∧
          (∀ v ∈ before, Override.complaint? v = none) ∧ Override.complaint? bad = some e ∧
          outcome.result = .error (.invalidOption e) ∧ dropped = (before.map Prod.fst).filter unknown) := by
  intro outcome unknown
  have recognized : (fun key => (Override.expected? key).isNone) = unknown := funext Override.expected?_isNone
  have result : outcome.result = _ := l.result_lower root p request overrides
  refine ⟨l.lowerFor_eq tell root p request overrides,
    ((Options.ofConfiguration l.configuration).merge overrides).ignored,
    l.events_lower root p request overrides, ?_⟩
  -- A complaint is the end before any mode is looked at; without one all keys were seen.
  cases complaint : overrides.findSome? Override.complaint? with
  | none =>
    rw [complaint] at result
    have dropped := Options.merge_ignored_of_fine (Options.ofConfiguration l.configuration) complaint
    rw [dropped]
    constructor
    · intro lowered success
      obtain ⟨-, -, ignored, profile⟩ := of_lowerWith (result.symm.trans success)
      exact ⟨profile, ignored⟩
    · left
      exact ⟨List.findSome?_eq_none_iff.1 complaint, by rw [recognized]⟩
  | some e =>
    rw [complaint] at result
    obtain ⟨before, bad, after, split, bad_complaint, fine⟩ := List.findSome?_eq_some_iff.1 complaint
    constructor
    · intro lowered success
      cases result.symm.trans success
    · right
      refine ⟨before, bad, after, e, split, fine, bad_complaint, result, ?_⟩
      rw [split, Options.merge_ignored_of_complaint _ fine bad_complaint, recognized]

/-- Notes of a lowering that drops two keys and succeeds, and of one that fails at the override between them. -/
theorem Lowerer.lower_events_noted :
    let l : Lowerer := ⟨Backend.registry, { profiling := .basic }, fun _ => 5, fun n => toString n⟩
    let notes := fun overrides : List Override =>
      (l.lowerFor Listener.noting (.expression "u = 0") .skx (some (.name "advanced")) overrides).run []
    (∃ lowered, notes [("foobar", .int 1), ("openmp", .bool true), ("turbo", .unset)] =
        (.ok lowered, [.optionIgnored "foobar", .optionIgnored "turbo", .profile lowered.profile]) ∧
      lowered.profile = lowered.run.ledger.profile .basic (fun n => toString n) ∧
      lowered.ignored = ["foobar", "turbo"]) ∧
    notes [("foobar", .int 1), ("openmp", .int 3), ("turbo", .unset)] =
      (.error (.invalidOption ⟨"openmp", "a boolean", "3"⟩), [.optionIgnored "foobar"]) := by
  intro l notes
  constructor
  · let overrides : List Override := [("foobar", .int 1), ("openmp", .bool true), ("turbo", .unset)]
    let outcome := l.lower (.expression "u = 0") .skx (some (.name "advanced")) overrides
    obtain ⟨heard, dropped, events, success, which⟩ :=
      lower_events Listener.noting l (.expression "u = 0") .skx (some (.name "advanced")) overrides
    have fine : ∀ v ∈ overrides, Override.complaint? v = none := by decide
    have keys : dropped = ["foobar", "turbo"] := by
      rcases which with ⟨-, keys⟩ | ⟨before, bad, after, e, split, -, complaint, -, -⟩
      · exact keys
      · rw [fine bad (split ▸ List.mem_append_right before List.mem_cons_self)] at complaint
        cases complaint
    cases result : outcome.result with
    | error e =>
      have succeeds : outcome.result.isOk = true := rfl
      rw [result] at succeeds
      cases succeeds
    | ok lowered =>
      rw [result, keys] at events
      obtain ⟨profile, ignored⟩ := success lowered result
      refine ⟨lowered, ?_, profile, ignored.trans keys⟩
      show StateT.run (l.lowerFor _ _ _ _ overrides) _ = _
      rw [heard, events, result]
      rfl
  · obtain ⟨heard, -⟩ := lower_events Listener.noting l (.expression "u = 0") .skx (some (.name "advanced"))
      [("foobar", .int 1), ("openmp", .int 3), ("turbo", .unset)]
    show StateT.run (l.lowerFor _ _ _ _ _) _ = _
    rw [heard]
    rfl

end LoopLowering
