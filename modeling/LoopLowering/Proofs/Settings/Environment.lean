/-
  An environment laid over a configuration, told from the variables alone.

  The variables are laid over a configuration one after the other, and a value that cannot be read ends this with
  part of them in place.

  1.  VALUES.  A flag is spelled by eight words and a level by four, in either case; what a word that is
      one of these stands for is said without a way to fail (`isOn`, `levelOf`).

  2.  FITTING.  A variable fits if its value is one of the words for it; a variable that is not recognized fits
      with any value.  One variable can be laid over a configuration exactly if it fits
      (`isSome_applyVariable?_iff`), so an environment can exactly if all its variables fit
      (`exists_applyEnv_iff`).

  3.  OUTCOME.  What is reached then is the configuration with each field from the last variable for it
      (`overlaid`), because each variable governs one field.  Laying over two environments is laying over one
      after the other (`applyEnv_append`), so the first variable that does not fit ends everything where those
      in front of it had led (`applyEnv_eq_some_iff`).
-/
import LoopLowering.Proofs.Settings.Layers

namespace LoopLowering.Configuration

open Layers (last? eq_getD_of_decided)

/-! ## 1. Values -/

/-- The value of a variable in lower case. -/
def lowerCase (value : String) : String := value.map Char.toLower

/-- Whether a value turns a flag on. -/
def isOn (value : String) : Bool := lowerCase value ∈ ["1", "true", "on", "yes"]

/-- The level that a value stands for. -/
def levelOf (value : String) : ProfilingLevel :=
  if lowerCase value = "basic" then .basic
  else if lowerCase value = "advanced" then .advanced
  else .off

/-- The words for a flag. -/
def flagWords : List String := ["1", "true", "on", "yes", "0", "false", "off", "no"]

/-- The words for a level. -/
def levelWords : List String := ["off", "none", "basic", "advanced"]

theorem flag?_eq_some_iff {value : String} {b : Bool} :
    flag? value = some b ↔ lowerCase value ∈ flagWords ∧ isOn value = b := by
  unfold flag? isOn lowerCase flagWords
  generalize value.map Char.toLower = word
  have words : word ∈ ["1", "true", "on", "yes", "0", "false", "off", "no"] ↔
      word ∈ ["1", "true", "on", "yes"] ∨ word ∈ ["0", "false", "off", "no"] :=
    List.mem_append (s := ["1", "true", "on", "yes"])
  dsimp only
  rw [words]
  by_cases on : word ∈ ["1", "true", "on", "yes"]
  · rw [if_pos on, decide_eq_true on, Option.some_inj]
    exact (and_iff_right (.inl on)).symm
  · rw [if_neg on, decide_eq_false on]
    by_cases off : word ∈ ["0", "false", "off", "no"]
    · rw [if_pos off, Option.some_inj]
      exact (and_iff_right (.inr off)).symm
    · rw [if_neg off]
      exact iff_of_false nofun fun ⟨known, _⟩ => known.elim on off

theorem parse?_eq_some_iff {value : String} {level : ProfilingLevel} :
    ProfilingLevel.parse? value = some level ↔ lowerCase value ∈ levelWords ∧ levelOf value = level := by
  show (if lowerCase value = "none" then some ProfilingLevel.off else ProfilingLevel.ofName? (lowerCase value)) =
    some level ↔ _
  rw [levelOf]
  by_cases word : lowerCase value ∈ levelWords
  · rw [and_iff_right word]
    simp only [levelWords, List.mem_cons, List.not_mem_nil, or_false] at word
    rcases word with word | word | word | word <;> rw [word] <;> exact Option.some_inj
  · have foreign := word
    simp only [levelWords, List.mem_cons, List.not_mem_nil, or_false, not_or] at foreign
    obtain ⟨off, none, basic, advanced⟩ := foreign
    have unnamed : ProfilingLevel.ofName? (lowerCase value) = Option.none := by
      rw [ProfilingLevel.ofName?, List.find?_eq_none]
      simp [ProfilingLevel.name, Ne.symm off, Ne.symm basic, Ne.symm advanced]
    rw [if_neg none, unnamed]
    exact iff_of_false nofun fun ⟨named, _⟩ => word named

/-! ## 2. Fitting -/

/-- The value of a variable is one of the words for it.  A variable that is not recognized has no words, and a
    platform may have any name. -/
def Fits (v : String × String) : Prop :=
  (v.1 ∈ ["IET_OPENMP", "IET_MPI"] → lowerCase v.2 ∈ flagWords) ∧
  (v.1 = "IET_PROFILING" → lowerCase v.2 ∈ levelWords)

instance : DecidablePred Fits := fun v =>
  inferInstanceAs (Decidable ((v.1 ∈ ["IET_OPENMP", "IET_MPI"] → lowerCase v.2 ∈ flagWords) ∧
    (v.1 = "IET_PROFILING" → lowerCase v.2 ∈ levelWords)))

theorem fits_of_foreign {v : String × String} (foreign : v.1 ∉ variableNames) : Fits v := by
  have flags_subset : ["IET_OPENMP", "IET_MPI"] ⊆ variableNames := by decide
  refine ⟨fun known => absurd (flags_subset known) foreign, fun known => ?_⟩
  rw [known] at foreign
  exact absurd (by decide) foreign

theorem fits_of_flag {name value : String} (flag : name ∈ ["IET_OPENMP", "IET_MPI"]) :
    Fits (name, value) ↔ lowerCase value ∈ flagWords := by
  have no_level : name ≠ "IET_PROFILING" := by
    rintro rfl
    exact absurd flag (by decide)
  exact ⟨fun fits => fits.1 flag, fun word => ⟨fun _ => word, fun level => absurd level no_level⟩⟩

theorem fits_level {value : String} : Fits ("IET_PROFILING", value) ↔ lowerCase value ∈ levelWords := by
  have no_flag : "IET_PROFILING" ∉ ["IET_OPENMP", "IET_MPI"] := by decide
  exact ⟨fun fits => fits.2 rfl, fun word => ⟨fun flag => absurd flag no_flag, fun _ => word⟩⟩

theorem fits_platform (value : String) : Fits ("IET_PLATFORM", value) := by
  have no_flag : "IET_PLATFORM" ∉ ["IET_OPENMP", "IET_MPI"] := by decide
  have no_level : "IET_PLATFORM" ≠ "IET_PROFILING" := by decide
  exact ⟨fun flag => absurd flag no_flag, fun level => absurd level no_level⟩

theorem isSome_flag?_iff {value : String} : (flag? value).isSome ↔ lowerCase value ∈ flagWords := by
  rw [Option.isSome_iff_exists]
  exact ⟨fun ⟨_, read⟩ => (flag?_eq_some_iff.1 read).1, fun word => ⟨_, flag?_eq_some_iff.2 ⟨word, rfl⟩⟩⟩

theorem isSome_parse?_iff {value : String} :
    (ProfilingLevel.parse? value).isSome ↔ lowerCase value ∈ levelWords := by
  rw [Option.isSome_iff_exists]
  exact ⟨fun ⟨_, read⟩ => (parse?_eq_some_iff.1 read).1, fun word => ⟨_, parse?_eq_some_iff.2 ⟨word, rfl⟩⟩⟩

/-- **One variable can be laid over a configuration exactly if it fits.** -/
theorem isSome_applyVariable?_iff (c : Configuration) (name value : String) :
    (c.applyVariable? name value).isSome ↔ Fits (name, value) := by
  by_cases known : name ∈ variableNames
  · simp only [variableNames, List.mem_cons, List.not_mem_nil, or_false] at known
    rcases known with rfl | rfl | rfl | rfl
    · exact iff_of_true rfl (fits_platform value)
    · rw [applyVariable?, Option.isSome_map, isSome_flag?_iff, fits_of_flag (by decide)]
    · rw [applyVariable?, Option.isSome_map, isSome_flag?_iff, fits_of_flag (by decide)]
    · rw [applyVariable?, Option.isSome_map, isSome_parse?_iff, fits_level]
  · rw [applyVariable?_of_foreign known]
    exact iff_of_true rfl (fits_of_foreign known)

/-- **An environment can be laid over a configuration exactly if all its variables fit.** -/
theorem exists_applyEnv_iff (c : Configuration) (environment : List (String × String)) :
    (∃ c', c.applyEnv environment = (c', none)) ↔ ∀ v ∈ environment, Fits v := by
  induction environment generalizing c with
  | nil => exact iff_of_true ⟨c, rfl⟩ nofun
  | cons v rest ih =>
    obtain ⟨name, value⟩ := v
    rw [applyEnv, List.forall_mem_cons, ← isSome_applyVariable?_iff c]
    cases c.applyVariable? name value with
    | some d => exact (ih d).trans (and_iff_right rfl).symm
    | none =>
      refine iff_of_false ?_ fun fit => Bool.false_ne_true fit.1
      rintro ⟨c', applied⟩
      cases applied

/-! ## 3. Outcome -/

/-- A configuration with each field from the last variable for it. -/
def overlaid (c : Configuration) (environment : List (String × String)) : Configuration where
  platform := (last? "IET_PLATFORM" environment).getD c.platform
  openmp := ((last? "IET_OPENMP" environment).map isOn).getD c.openmp
  mpi := ((last? "IET_MPI" environment).map isOn).getD c.mpi
  profiling := ((last? "IET_PROFILING" environment).map levelOf).getD c.profiling
  blocking := c.blocking

/-- **What an environment decides**: the last variable for a field, or else what the field was. -/
theorem eq_overlaid {c c' : Configuration} {environment : List (String × String)}
    (h : c.applyEnv environment = (c', none)) : c' = c.overlaid environment := by
  have run := foldlM_overlay? h
  have platform : c'.platform = ((last? "IET_PLATFORM" environment).map id).getD c.platform :=
    eq_getD_of_decided (fun _ _ => Option.some.inj) (governs_platform.decided run)
  have openmp : c'.openmp = ((last? "IET_OPENMP" environment).map isOn).getD c.openmp :=
    eq_getD_of_decided (fun _ _ read => (flag?_eq_some_iff.1 read).2) (governs_openmp.decided run)
  have mpi : c'.mpi = ((last? "IET_MPI" environment).map isOn).getD c.mpi :=
    eq_getD_of_decided (fun _ _ read => (flag?_eq_some_iff.1 read).2) (governs_mpi.decided run)
  have profiling : c'.profiling = ((last? "IET_PROFILING" environment).map levelOf).getD c.profiling :=
    eq_getD_of_decided (fun _ _ read => (parse?_eq_some_iff.1 read).2) (governs_profiling.decided run)
  rw [Option.map_id] at platform
  cases c'
  rw [overlaid, Configuration.mk.injEq]
  exact ⟨platform, openmp, mpi, profiling, blocking_of_foldlM run⟩

theorem applyEnv_eq_none_iff (c c' : Configuration) (environment : List (String × String)) :
    c.applyEnv environment = (c', none) ↔ (∀ v ∈ environment, Fits v) ∧ c' = c.overlaid environment := by
  constructor
  · exact fun h => ⟨(exists_applyEnv_iff c environment).1 ⟨c', h⟩, eq_overlaid h⟩
  · rintro ⟨fit, rfl⟩
    obtain ⟨d, h⟩ := (exists_applyEnv_iff c environment).2 fit
    rw [h, eq_overlaid h]

/-- Two environments one after the other are laid over a configuration one after the other, the second if the
    first could be. -/
theorem applyEnv_append (c : Configuration) (first second : List (String × String)) :
    c.applyEnv (first ++ second) = match c.applyEnv first with
      | (d, none) => d.applyEnv second
      | (d, some bad) => (d, some bad) := by
  induction first generalizing c with
  | nil => rfl
  | cons v rest ih =>
    obtain ⟨name, value⟩ := v
    rw [List.cons_append, applyEnv, applyEnv]
    cases c.applyVariable? name value with
    | some d => exact ih d
    | none => rfl

/-- What the first variable that does not fit leaves behind, whatever comes after it. -/
theorem applyEnv_of_not_fits (c : Configuration) {before after : List (String × String)} {v : String × String}
    (fit : ∀ u ∈ before, Fits u) (unfit : ¬ Fits v) :
    c.applyEnv (before ++ v :: after) = (c.overlaid before, some ⟨v.1, v.2⟩) := by
  obtain ⟨name, value⟩ := v
  have stops : (c.overlaid before).applyVariable? name value = none := by
    rw [← Option.not_isSome_iff_eq_none, isSome_applyVariable?_iff]
    exact unfit
  rw [applyEnv_append, (applyEnv_eq_none_iff c _ before).2 ⟨fit, rfl⟩]
  dsimp only
  rw [applyEnv, stops]

/-- **The first variable that does not fit ends everything**, with its name and its value as they are. -/
theorem applyEnv_eq_some_iff (c c' : Configuration) (environment : List (String × String)) (bad : BadVariable) :
    c.applyEnv environment = (c', some bad) ↔ ∃ before v after, environment = before ++ v :: after ∧
      (∀ u ∈ before, Fits u) ∧ ¬ Fits v ∧ bad = ⟨v.1, v.2⟩ ∧ c.applyEnv before = (c', none) := by
  constructor
  · intro h
    cases found : environment.find? fun v => ¬ Fits v with
    | none =>
      have fit : ∀ v ∈ environment, Fits v := by simpa using found
      obtain ⟨d, done⟩ := (exists_applyEnv_iff c environment).2 fit
      cases h.symm.trans done
    | some v =>
      obtain ⟨unfit, before, after, rfl, fit⟩ := List.find?_eq_some_iff_append.1 found
      have fit : ∀ u ∈ before, Fits u := by simpa using fit
      have unfit : ¬ Fits v := of_decide_eq_true unfit
      rw [applyEnv_of_not_fits c fit unfit, Prod.mk.injEq, Option.some_inj] at h
      obtain ⟨rfl, rfl⟩ := h
      exact ⟨before, v, after, rfl, fit, unfit, rfl, (applyEnv_eq_none_iff c _ before).2 ⟨fit, rfl⟩⟩
  · rintro ⟨before, v, after, rfl, fit, unfit, rfl, reached⟩
    rw [applyEnv_of_not_fits c fit unfit, eq_overlaid reached]

/-- **How an environment is laid over a configuration.**  It succeeds exactly if the values of all flags and levels
    are words for them, and then each field is what the last variable for it says, or else what it was, and the
    defaults for blocking stay.  Otherwise the first variable that does not fit is named with its value, and what
    is left is what the variables in front of it lead to.  Variables that are not recognized do not
    matter, and two environments can be laid over one after the other. -/
theorem applyEnv_outcome (c : Configuration) (environment : List (String × String)) :
    (∀ c', c.applyEnv environment = (c', none) ↔
      (∀ v ∈ environment, Fits v) ∧ c' = c.overlaid environment) ∧
    (∀ c' bad, c.applyEnv environment = (c', some bad) ↔ ∃ before v after, environment = before ++ v :: after ∧
      (∀ u ∈ before, Fits u) ∧ ¬ Fits v ∧ bad = ⟨v.1, v.2⟩ ∧ c.applyEnv before = (c', none)) ∧
    (∀ other : List (String × String),
      (other.filter fun v => decide (v.1 ∈ variableNames)) =
        (environment.filter fun v => decide (v.1 ∈ variableNames)) →
      c.applyEnv other = c.applyEnv environment) ∧
    (∀ second, c.applyEnv (environment ++ second) = match c.applyEnv environment with
      | (d, none) => d.applyEnv second
      | (d, some bad) => (d, some bad)) := by
  refine ⟨fun c' => applyEnv_eq_none_iff c c' environment,
    fun c' bad => applyEnv_eq_some_iff c c' environment bad, fun other same => ?_, applyEnv_append c environment⟩
  rw [← applyEnv_filter c other, same, applyEnv_filter]

end LoopLowering.Configuration
