/-
  Settings in layers: who decides a setting, and what.

  A setting can be given in several places, and in most of them several times.

  1.  ASSIGNMENTS.  Of the assignments to a key the last one counts (`last?`).

  2.  LAYERS.  A layer has a value for a setting or has none, and a value can be read or cannot.  The first
      layer that has a value decides, with what can be read from it (`decided`).  So layers may be applied from
      below, each over what those below it decide (`decided_append`).

  3.  RUNS.  Assignments are applied one after the other.  If the assignments to a key govern a field
      (`Governs`), one step at a time, then the field at the end of a run is what the last assignment to the key
      decides (`Governs.decided`).

  4.  OPTIONS, VARIABLES, FILES.  Four keys govern the four options of a merge, and four variables the four
      fields of a configuration that the environment is laid over.  A field of a file is a layer over its
      default.
-/
import LoopLowering.Proofs.Options.Merging

namespace LoopLowering.Layers

variable {α β σ : Type}

/-! ## 1. Assignments -/

/-- The value of the last assignment to a key. -/
def last? (key : String) (l : List (String × α)) : Option α := l.reverse.lookup key

theorem last?_cons (key : String) (v : String × α) (rest : List (String × α)) :
    last? key (v :: rest) = (last? key rest).or (if v.1 = key then some v.2 else none) := by
  obtain ⟨k, v⟩ := v
  have single : [(k, v)].lookup key = if k = key then some v else none := by
    rw [List.lookup_cons, List.lookup_nil]
    by_cases same : k = key
    · rw [if_pos same, same, beq_self_eq_true]
    · rw [if_neg same, beq_eq_false_iff_ne.2 (Ne.symm same)]
  rw [last?, List.reverse_cons, List.lookup_append, single]
  rfl

/-- Assignments to other keys do not count. -/
theorem last?_filter (counts : String → Bool) {key : String} (h : counts key = true) (l : List (String × α)) :
    last? key (l.filter fun v => counts v.1) = last? key l := by
  induction l with
  | nil => rfl
  | cons v rest ih =>
    rw [List.filter_cons, last?_cons]
    by_cases kept : counts v.1 = true
    · rw [if_pos kept, last?_cons, ih]
    · have other : v.1 ≠ key := by
        rintro rfl
        exact kept h
      rw [if_neg kept, if_neg other, ih, Option.or_none]

/-! ## 2. Layers -/

/-- What layers decide, the uppermost first.  Each has a value or none; a value is given by what can be read
    from it. -/
def decided (layers : List (Option (Option α))) (default : α) : Option α :=
  match layers with
  | [] => some default
  | none :: rest => decided rest default
  | some reading :: _ => reading

/-- Layers over what the layers below them decide. -/
theorem decided_append {above below : List (Option (Option α))} {default between a : α}
    (lower : decided below default = some between) (upper : decided above between = some a) :
    decided (above ++ below) default = some a := by
  induction above with
  | nil =>
    obtain rfl := Option.some.inj upper
    exact lower
  | cons layer rest ih =>
    cases layer with
    | none => exact ih upper
    | some reading => exact upper

/-- What a single layer decides if all that can be read from it is read in one way. -/
theorem eq_getD_of_decided {read : β → Option α} {means : β → α}
    (exact : ∀ value a, read value = some a → means value = a) {layer : Option β} {default a : α}
    (h : decided [layer.map read] default = some a) : a = (layer.map means).getD default := by
  cases layer with
  | none => exact (Option.some.inj h).symm
  | some value => exact (exact value a h).symm

/-! ## 3. Runs -/

/-- The assignments to a key govern a field: they set it to what is read from them, and no others touch it. -/
structure Governs (step : σ → String × β → Option σ) (key : String) (read : β → Option α)
    (field : σ → α) : Prop where
  sets : ∀ s v s', step s (key, v) = some s' → read v = some (field s')
  keeps : ∀ s v s', v.1 ≠ key → step s v = some s' → field s' = field s

variable {step : σ → String × β → Option σ}

/-- **The last assignment decides.** -/
theorem Governs.decided {key : String} {read : β → Option α} {field : σ → α}
    (governs : Governs step key read field) {l : List (String × β)} {s s' : σ} (runs : l.foldlM step s = some s') :
    decided [(last? key l).map read] (field s) = some (field s') := by
  induction l generalizing s with
  | nil =>
    obtain rfl := Option.some.inj runs
    rfl
  | cons v rest ih =>
    obtain ⟨t, first, runs⟩ := Option.bind_eq_some_iff.1 runs
    have later := ih runs
    -- The head counts only if nothing after it is assigned to the key.
    rw [last?_cons]
    cases last : last? key rest with
    | some w =>
      rw [last] at later
      exact later
    | none =>
      rw [last] at later
      have same : field t = field s' := Option.some.inj later
      rw [Option.none_or, ← same]
      by_cases here : v.1 = key
      · rw [if_pos here]
        exact governs.sets s v.2 t (here ▸ first)
      · rw [if_neg here, governs.keeps s v t here first]
        rfl

end LoopLowering.Layers

namespace LoopLowering

open Layers (last? decided Governs)
open Override (complaint? expected? switches)

/-! ## 4. Options, variables, files -/

/-- The boolean that a value is. -/
def OptionValue.bool? : OptionValue → Option Bool
  | .bool b => some b
  | _ => none

/-- The levels of blocking that a value is, where no levels is a value too. -/
def OptionValue.levels? : OptionValue → Option (Option UInt32)
  | .unset => some none
  | .int i =>
    if 0 ≤ i.toInt ∧ i.toInt.toNat < UInt32.size then some (some (UInt32.ofNat i.toInt.toNat)) else none
  | .bool _ => none

namespace Options

/-- The options with one override applied, unless there is a complaint about it. -/
def accept? (o : Options) (v : Override) : Option Options :=
  if (complaint? v).isNone then some (o.set v) else none

/-- A merge is a run. -/
theorem foldlM_accept? (o : Options) (l : List Override) : l.foldlM accept? o = (o.merge l).result.toOption := by
  rw [merge_result]
  induction l generalizing o with
  | nil => rfl
  | cons v rest ih =>
    rw [List.foldlM_cons, accept?, List.findSome?_cons]
    cases complaint? v with
    | some e => rfl
    | none => exact ih (o.set v)

theorem of_accept? {o o' : Options} {v : Override} (h : o.accept? v = some o') :
    complaint? v = none ∧ o' = o.set v := by
  rw [accept?] at h
  by_cases fine : (complaint? v).isNone = true
  · rw [if_pos fine] at h
    exact ⟨Option.isNone_iff_eq_none.1 fine, (Option.some.inj h).symm⟩
  · rw [if_neg fine] at h
    cases h

/-- Overrides of keys that are not recognized can be left out. -/
theorem merge_filter (o : Options) (l : List Override) :
    (o.merge (l.filter fun v => decide (v.1 ∈ Override.keys))).result = (o.merge l).result := by
  induction l generalizing o with
  | nil => rfl
  | cons v rest ih =>
    obtain ⟨key, v⟩ := v
    rw [List.filter_cons]
    by_cases known : key ∈ Override.keys
    · rw [if_pos (decide_eq_true known), merge, merge]
      cases o.override (key, v) with
      | error e => rfl
      | ok applied =>
        cases applied with
        | some o => exact ih o
        | none => exact ih o
    · have foreign : (expected? key).isNone = true := by
        rw [Override.expected?_isNone, decide_eq_true known]
      rw [if_neg (by rwa [decide_eq_true_iff]), ih, merge,
        (foreign_eq (v := (key, v)) (Option.isNone_iff_eq_none.1 foreign) o).1]

/-- An override touches no option but that of its key. -/
theorem set_keeps (o : Options) (v : Override) :
    (v.1 ≠ "openmp" → (o.set v).openmp = o.openmp) ∧ (v.1 ≠ "mpi" → (o.set v).mpi = o.mpi) ∧
      (v.1 ≠ "blockinner" → (o.set v).blockinner = o.blockinner) ∧
      (v.1 ≠ "blocklevels" → (o.set v).blocklevels = o.blocklevels) := by
  obtain ⟨key, v⟩ := v
  simp only [set]
  split <;> refine ⟨fun ne => ?_, fun ne => ?_, fun ne => ?_, fun ne => ?_⟩ <;> first | rfl | exact (ne rfl).elim

/-- A key governs an option if what it carries without a complaint is read the same way, and is set. -/
theorem governs_of_set {α : Type} {key : String} {read : OptionValue → Option α} {field : Options → α}
    (sets : ∀ o v, complaint? (key, v) = none → read v = some (field (set o (key, v))))
    (keeps : ∀ o v, v.1 ≠ key → field (set o v) = field o) : Governs accept? key read field where
  sets o v o' h := by
    obtain ⟨fine, rfl⟩ := of_accept? h
    exact sets o v fine
  keeps o v o' ne h := by
    obtain ⟨-, rfl⟩ := of_accept? h
    exact keeps o v ne

/-- An option that is on or off suits a boolean only. -/
theorem eq_bool_of_fine {key : String} {v : OptionValue} (known : key ∈ switches)
    (fine : complaint? (key, v) = none) : ∃ b, v = .bool b := by
  cases v with
  | bool b => exact ⟨b, rfl⟩
  | int i =>
    simp only [switches, List.mem_cons, List.not_mem_nil, or_false] at known
    rcases known with rfl | rfl | rfl <;> cases fine
  | unset =>
    simp only [switches, List.mem_cons, List.not_mem_nil, or_false] at known
    rcases known with rfl | rfl | rfl <;> cases fine

theorem governs_openmp : Governs accept? "openmp" OptionValue.bool? openmp := by
  refine governs_of_set (fun o v fine => ?_) fun o v => (set_keeps o v).1
  obtain ⟨b, rfl⟩ := eq_bool_of_fine (by decide) fine
  rfl

theorem governs_mpi : Governs accept? "mpi" OptionValue.bool? mpi := by
  refine governs_of_set (fun o v fine => ?_) fun o v => (set_keeps o v).2.1
  obtain ⟨b, rfl⟩ := eq_bool_of_fine (by decide) fine
  rfl

theorem governs_blockinner : Governs accept? "blockinner" OptionValue.bool? blockinner := by
  refine governs_of_set (fun o v fine => ?_) fun o v => (set_keeps o v).2.2.1
  obtain ⟨b, rfl⟩ := eq_bool_of_fine (by decide) fine
  rfl

theorem governs_blocklevels : Governs accept? "blocklevels" OptionValue.levels? blocklevels := by
  refine governs_of_set (fun o v fine => ?_) fun o v => (set_keeps o v).2.2.2
  cases v with
  | bool b => cases fine
  | unset => rfl
  | int i =>
    rw [Override.complaint?_levels] at fine
    by_cases inRange : 0 ≤ i.toInt ∧ i.toInt.toNat < UInt32.size
    · exact if_pos inRange
    · rw [if_neg inRange] at fine
      cases fine

end Options

namespace Configuration

/-- The configuration with one variable laid over it. -/
def overlay? (c : Configuration) (v : String × String) : Option Configuration := c.applyVariable? v.1 v.2

/-- Laying an environment over a configuration is a run. -/
theorem foldlM_overlay? {c c' : Configuration} {environment : List (String × String)}
    (h : c.applyEnv environment = (c', none)) : environment.foldlM overlay? c = some c' := by
  induction environment generalizing c with
  | nil =>
    obtain rfl := congrArg Prod.fst h
    rfl
  | cons v rest ih =>
    obtain ⟨name, value⟩ := v
    rw [applyEnv] at h
    rw [List.foldlM_cons, overlay?]
    cases overlaid : c.applyVariable? name value with
    | some d =>
      rw [overlaid] at h
      exact ih h
    | none =>
      rw [overlaid] at h
      cases h

/-- The variables that are recognized. -/
def variableNames : List String := ["IET_PLATFORM", "IET_OPENMP", "IET_MPI", "IET_PROFILING"]

theorem applyVariable?_of_foreign {name : String} (foreign : name ∉ variableNames) (c : Configuration)
    (value : String) : c.applyVariable? name value = some c := by
  unfold applyVariable?
  split
  · exact absurd (by decide) foreign
  · exact absurd (by decide) foreign
  · exact absurd (by decide) foreign
  · exact absurd (by decide) foreign
  · rfl

/-- Variables that are not recognized can be left out. -/
theorem applyEnv_filter (c : Configuration) (environment : List (String × String)) :
    c.applyEnv (environment.filter fun v => decide (v.1 ∈ variableNames)) = c.applyEnv environment := by
  induction environment generalizing c with
  | nil => rfl
  | cons v rest ih =>
    obtain ⟨name, value⟩ := v
    rw [List.filter_cons]
    by_cases known : name ∈ variableNames
    · rw [if_pos (decide_eq_true known), applyEnv, applyEnv]
      cases c.applyVariable? name value with
      | some d => exact ih d
      | none => rfl
    · rw [if_neg (by rwa [decide_eq_true_iff]), ih, applyEnv, applyVariable?_of_foreign known]

/-- What laying one variable over a configuration can come to. -/
theorem of_overlay? {c c' : Configuration} {v : String × String} (h : c.overlay? v = some c') :
    (v.1 = "IET_PLATFORM" ∧ c' = { c with platform := v.2 }) ∨
      (v.1 = "IET_OPENMP" ∧ ∃ openmp, flag? v.2 = some openmp ∧ c' = { c with openmp }) ∨
      (v.1 = "IET_MPI" ∧ ∃ mpi, flag? v.2 = some mpi ∧ c' = { c with mpi }) ∨
      (v.1 = "IET_PROFILING" ∧ ∃ profiling, ProfilingLevel.parse? v.2 = some profiling ∧
        c' = { c with profiling }) ∨ c' = c := by
  obtain ⟨name, value⟩ := v
  simp only [overlay?, applyVariable?] at h
  split at h
  · exact .inl ⟨rfl, (Option.some.inj h).symm⟩
  · obtain ⟨b, read, rfl⟩ := Option.map_eq_some_iff.1 h
    exact .inr (.inl ⟨rfl, b, read, rfl⟩)
  · obtain ⟨b, read, rfl⟩ := Option.map_eq_some_iff.1 h
    exact .inr (.inr (.inl ⟨rfl, b, read, rfl⟩))
  · obtain ⟨level, read, rfl⟩ := Option.map_eq_some_iff.1 h
    exact .inr (.inr (.inr (.inl ⟨rfl, level, read, rfl⟩)))
  · exact .inr (.inr (.inr (.inr (Option.some.inj h).symm)))

/-- A variable touches no field but its own, and no variable touches the defaults for blocking. -/
theorem overlay?_keeps {c c' : Configuration} {v : String × String} (h : c.overlay? v = some c') :
    (v.1 ≠ "IET_PLATFORM" → c'.platform = c.platform) ∧ (v.1 ≠ "IET_OPENMP" → c'.openmp = c.openmp) ∧
      (v.1 ≠ "IET_MPI" → c'.mpi = c.mpi) ∧ (v.1 ≠ "IET_PROFILING" → c'.profiling = c.profiling) ∧
      c'.blocking = c.blocking := by
  rcases of_overlay? h with ⟨own, rfl⟩ | ⟨own, _, -, rfl⟩ | ⟨own, _, -, rfl⟩ | ⟨own, _, -, rfl⟩ | rfl
  · exact ⟨fun ne => (ne own).elim, fun _ => rfl, fun _ => rfl, fun _ => rfl, rfl⟩
  · exact ⟨fun _ => rfl, fun ne => (ne own).elim, fun _ => rfl, fun _ => rfl, rfl⟩
  · exact ⟨fun _ => rfl, fun _ => rfl, fun ne => (ne own).elim, fun _ => rfl, rfl⟩
  · exact ⟨fun _ => rfl, fun _ => rfl, fun _ => rfl, fun ne => (ne own).elim, rfl⟩
  · exact ⟨fun _ => rfl, fun _ => rfl, fun _ => rfl, fun _ => rfl, rfl⟩

theorem governs_platform : Governs overlay? "IET_PLATFORM" some platform where
  sets _ _ _ h := congrArg (fun d => d.map platform) h
  keeps _ _ _ ne h := (overlay?_keeps h).1 ne

theorem governs_openmp : Governs overlay? "IET_OPENMP" flag? openmp where
  sets _ _ _ h := by
    obtain ⟨b, read, rfl⟩ := Option.map_eq_some_iff.1 h
    exact read
  keeps _ _ _ ne h := (overlay?_keeps h).2.1 ne

theorem governs_mpi : Governs overlay? "IET_MPI" flag? mpi where
  sets _ _ _ h := by
    obtain ⟨b, read, rfl⟩ := Option.map_eq_some_iff.1 h
    exact read
  keeps _ _ _ ne h := (overlay?_keeps h).2.2.1 ne

theorem governs_profiling : Governs overlay? "IET_PROFILING" ProfilingLevel.parse? profiling where
  sets _ _ _ h := by
    obtain ⟨level, read, rfl⟩ := Option.map_eq_some_iff.1 h
    exact read
  keeps _ _ _ ne h := (overlay?_keeps h).2.2.2.1 ne

/-- An environment leaves the defaults for blocking alone. -/
theorem blocking_of_foldlM {c c' : Configuration} {environment : List (String × String)}
    (h : environment.foldlM overlay? c = some c') : c'.blocking = c.blocking := by
  induction environment generalizing c with
  | nil =>
    obtain rfl := Option.some.inj h
    rfl
  | cons v rest ih =>
    obtain ⟨d, overlaid, rest⟩ := Option.bind_eq_some_iff.1 h
    rw [ih rest, (overlay?_keeps overlaid).2.2.2.2]

end Configuration

namespace Toml.Fields

/-- The fields of the record that a field holds; without the field there are none. -/
def record (fields : Fields) (key : String) (names : List String) : Fields :=
  ((fields.get? key).bind (Value.record? names)).getD []

/-- A field is a layer over what it is if it is missing. -/
theorem optional?_eq {α : Type} (fields : Fields) (key : String) (read : Value → Option α) (missing : α) :
    fields.optional? key read missing = decided [(fields.get? key).map read] missing := by
  rw [optional?]
  cases fields.get? key <;> rfl

/-- A field that need not be there is a layer over any default. -/
theorem decided_of_optional? {α : Type} {fields : Fields} {key : String} {read : Value → Option α} {a : Option α}
    (h : fields.optional? key (fun v => (read v).map some) none = some a) (default : α) :
    decided [(fields.get? key).map read] default = some (a.getD default) := by
  rw [optional?] at h
  cases found : fields.get? key with
  | none =>
    rw [found] at h
    obtain rfl := Option.some.inj h
    rfl
  | some v =>
    rw [found] at h
    obtain ⟨b, reading, rfl⟩ := Option.map_eq_some_iff.1 h
    exact reading

end Toml.Fields

/-- What the record for blocking decides; a record that is missing has no fields. -/
theorem BlockingDefaults.of_optional? {fields : Toml.Fields} {key : String} {b : BlockingDefaults}
    (h : fields.optional? key ofToml? {} = some b) :
    let blocking := fields.record key ["blockinner", "blocklevels"]
    decided [(blocking.get? "blockinner").map Toml.Value.bool?] false = some (b.blockinner.getD false) ∧
      decided [(blocking.get? "blocklevels").map fun v => v.word32?.map some] none = some b.blocklevels := by
  intro blocking
  rw [Toml.Fields.optional?] at h
  cases found : fields.get? key with
  | none =>
    have empty : blocking = [] := by
      show ((fields.get? key).bind _).getD [] = []
      rw [found, Option.bind_none, Option.getD_none]
    rw [found] at h
    obtain rfl := Option.some.inj h
    rw [empty]
    exact ⟨rfl, rfl⟩
  | some v =>
    rw [found] at h
    simp only [ofToml?, Option.bind_eq_bind, Option.bind_eq_some_iff, Option.pure_def, Option.some.injEq] at h
    obtain ⟨inner, record, blockinner, hinner, blocklevels, hlevels, rfl⟩ := h
    have same : blocking = inner := by
      show ((fields.get? key).bind _).getD [] = inner
      rw [found, Option.bind_some, record, Option.getD_some]
    rw [same]
    refine ⟨Toml.Fields.decided_of_optional? hinner false, ?_⟩
    rw [← Toml.Fields.optional?_eq]
    exact hlevels

namespace Configuration

/-- What the fields of a file decide. -/
theorem of_ofToml? {fields : Toml.Fields} {c : Configuration} (h : ofToml? fields = some c) :
    let blocking := fields.record "dle-options" ["blockinner", "blocklevels"]
    decided [(fields.get? "platform").map Toml.Value.text?] "cpu64" = some c.platform ∧
      decided [(fields.get? "openmp").map Toml.Value.bool?] false = some c.openmp ∧
      decided [(fields.get? "mpi").map Toml.Value.bool?] false = some c.mpi ∧
      decided [(fields.get? "profiling").map fun v => v.name?.bind ProfilingLevel.ofName?] .off =
        some c.profiling ∧
      decided [(blocking.get? "blockinner").map Toml.Value.bool?] false = some (c.blocking.blockinner.getD false) ∧
      decided [(blocking.get? "blocklevels").map fun v => v.word32?.map some] none =
        some c.blocking.blocklevels := by
  simp only [ofToml?, Option.bind_eq_bind, Option.bind_eq_some_iff, Option.pure_def, Option.some.injEq] at h
  obtain ⟨platform, hplatform, openmp, hopenmp, mpi, hmpi, profiling, hprofiling, blocking, hblocking, rfl⟩ := h
  rw [Toml.Fields.optional?_eq] at hplatform hopenmp hmpi hprofiling
  exact ⟨hplatform, hopenmp, hmpi, hprofiling, BlockingDefaults.of_optional? hblocking⟩

end Configuration

end LoopLowering
