/-
  Sequences of annotation passes.

  1.  RESOLUTION.  A sequence of names is refused for its first name that the library lacks; otherwise
      each name becomes a pass of that name (`Library.resolve_eq_error`, `Library.resolve_eq_ok`).

  2.  RUNS.  The passes of a run perform their effects one after the other, which is one effect, that of
      the sequence (`effects`).  The run fails exactly if it comes to a `blocking` that refuses
      (`runFrom_eq`); the ledger gets an entry for each name (`Ledger.after`).

  3.  ORDER.  The effect of a sequence and its failure depend on which names it has, not on their order
      or number (`process_eq_of_same_names`).
-/
import LoopLowering.Platform.Catalogue
import LoopLowering.Target
import LoopLowering.Proofs.Pass.Performing

namespace LoopLowering

/-! ## 1. Resolution -/

namespace Pass.Library

theorem mem_names_iff {lib : Library} {name : String} :
    name ∈ lib.names ↔ ∃ pass, lib.get? name = some pass := by
  rw [names, get?, List.mem_map, ← Option.isSome_iff_exists, List.find?_isSome]
  simp only [decide_eq_true_eq]

/-- The first name that the library lacks is the error. -/
theorem resolve_eq_error {lib : Library} {names : List String} {name : String}
    (h : names.find? (fun x => x ∉ lib.names) = some name) (platform : Platform) :
    lib.resolve platform names = .error ⟨name, platform.name⟩ := by
  induction names with
  | nil => exact absurd h (by simp)
  | cons x rest ih =>
    rw [resolve]
    by_cases hx : x ∈ lib.names
    · obtain ⟨pass, hpass⟩ := mem_names_iff.1 hx
      rw [List.find?_cons_of_neg (by simpa using hx)] at h
      rw [hpass, ih h]
      rfl
    · rw [List.find?_cons_of_pos (by simpa using hx)] at h
      cases hpass : lib.get? x with
      | none => rw [Option.some.inj h]
      | some pass => exact absurd (mem_names_iff.2 ⟨pass, hpass⟩) hx

/-- If the library has all names, each becomes a pass of that name. -/
theorem resolve_eq_ok {lib : Library} {names : List String} (h : ∀ x ∈ names, x ∈ lib.names)
    (platform : Platform) :
    ∃ passes, lib.resolve platform names = .ok passes ∧ passes.map Pass.name = names ∧
      ∀ pass ∈ passes, pass ∈ lib.passes := by
  induction names with
  | nil => exact ⟨[], rfl, rfl, fun _ hp => absurd hp List.not_mem_nil⟩
  | cons x rest ih =>
    obtain ⟨passes, hpasses, hnames, hmem⟩ := ih fun y hy => h y (List.mem_cons_of_mem x hy)
    obtain ⟨pass, hpass⟩ := mem_names_iff.1 (h x List.mem_cons_self)
    have hname : pass.name = x := by simpa using List.find?_some hpass
    refine ⟨pass :: passes, ?_, by rw [List.map_cons, hname, hnames], fun q hq => ?_⟩
    · rw [resolve, hpass, hpasses]
      rfl
    · rcases List.mem_cons.1 hq with rfl | hq
      · exact List.mem_of_find?_eq_some hpass
      · exact hmem q hq

end Pass.Library

/-! ## 2. Runs -/

/-- The ledger after passes of the names have run, the first of them at the place `n`. -/
def Ledger.after (elapsed : Nat → Duration) (n : Nat) (l : Ledger) : List String → Ledger
  | [] => l
  | name :: rest => after elapsed (n + 1) (l.record name (elapsed n)) rest

theorem Ledger.passes_after (elapsed : Nat → Duration) (names : List String) (n : Nat) (l : Ledger) :
    (l.after elapsed n names).passes = l.passes ++ names := by
  induction names generalizing n l with
  | nil => rw [after, List.append_nil]
  | cons name rest ih => rw [after, ih, passes_record, List.append_assoc, List.singleton_append]

/-- How long passes take does not show in the labels. -/
theorem Ledger.labels_after {elapsed elapsed' : Nat → Duration} {names : List String} {n : Nat} {l l' : Ledger}
    (labels : l.labels = l'.labels) (passes : l.passes = l'.passes) :
    (l.after elapsed n names).labels = (l'.after elapsed' n names).labels := by
  induction names generalizing n l l' with
  | nil => exact labels
  | cons name rest ih =>
    have size : l.size = l'.size := by
      have same := congrArg List.length labels
      rwa [Ledger.labels, Ledger.labels, List.length_map, List.length_map] at same
    have next : l.nextLabel name = l'.nextLabel name := by
      rw [nextLabel, nextLabel, labels, passes, size]
    refine ih ?_ ?_
    · rw [labels_record, labels_record, labels, next]
    · rw [passes_record, passes_record, passes]

namespace Pass

/-- What the passes of the names do together. -/
def effects (ctx : Context) (names : List String) : Effect := .all (names.map (effect ctx))

theorem stable_of_mem {ctx : Context} {names : List String} {e : Effect} (h : e ∈ names.map (effect ctx)) :
    e.Stable := by
  obtain ⟨name, -, rfl⟩ := List.mem_map.1 h
  exact stable_effect ctx name

theorem apply_effects_cons (ctx : Context) (name : String) (rest : List String) (u : TranslationUnit) :
    (effects ctx (name :: rest)).apply u = (effects ctx rest).apply ((effect ctx name).apply u) := by
  rw [effects, effects, Effect.apply_all fun _ => stable_of_mem, Effect.apply_all fun _ => stable_of_mem]
  rfl

/-- Whether the passes of the names come to one that refuses. -/
def Blocked (ctx : Context) (names : List String) : Prop :=
  "blocking" ∈ names ∧ maxBlockLevels < ctx.blockLevels.toNat

instance (ctx : Context) (names : List String) : Decidable (Blocked ctx names) :=
  inferInstanceAs (Decidable (_ ∧ _))

/-- **A run of passes of the library** performs the effect of their names, or fails at `blocking`. -/
theorem runFrom_eq {passes : List Pass} (h : ∀ pass ∈ passes, pass ∈ Library.processor.passes)
    (ctx : Context) (elapsed : Nat → Duration) (n : Nat) (run : Run) :
    Target.runFrom ctx elapsed n run passes =
      if Blocked ctx (passes.map Pass.name) then
        .error (.passFailed "blocking" (tooManyLevels ctx.blockLevels))
      else .ok ⟨(effects ctx (passes.map Pass.name)).apply run.unit,
        run.ledger.after elapsed n (passes.map Pass.name)⟩ := by
  induction passes generalizing n run with
  | nil =>
    have idle : (effects ctx []).apply run.unit = run.unit := Effect.apply_all (fun _ => stable_of_mem) _
    rw [Target.runFrom, List.map_nil, if_neg fun hb : Blocked ctx [] => List.not_mem_nil hb.1, idle]
    rfl
  | cons pass rest ih =>
    have ih := ih fun q hq => h q (List.mem_cons_of_mem pass hq)
    rw [Target.runFrom, run_eq (h pass List.mem_cons_self), List.map_cons]
    by_cases hr : pass.name = "blocking" ∧ maxBlockLevels < ctx.blockLevels.toNat
    · have hb : Blocked ctx (pass.name :: rest.map Pass.name) := ⟨hr.1 ▸ List.mem_cons_self, hr.2⟩
      rw [refusal?, if_pos hr, if_pos hb, hr.1]
    · have hb : Blocked ctx (pass.name :: rest.map Pass.name) ↔ Blocked ctx (rest.map Pass.name) := by
        constructor
        · rintro ⟨hm, hl⟩
          rcases List.mem_cons.1 hm with hname | hm
          · exact absurd ⟨hname.symm, hl⟩ hr
          · exact ⟨hm, hl⟩
        · rintro ⟨hm, hl⟩
          exact ⟨List.mem_cons_of_mem _ hm, hl⟩
      rw [refusal?, if_neg hr, apply_effects_cons, Ledger.after]
      simp only [hb]
      exact ih (n + 1) _

/-- The target of a sequence of known names, and what it does to a tree. -/
theorem process_custom_eq {names : List String} (h : ∀ x ∈ names, x ∈ Library.processor.names)
    (o : Options) (p : Platform) :
    ∃ t, Target.custom names o p Library.processor = .ok t ∧ ∀ elapsed root,
      t.process elapsed root =
        if Blocked ⟨o, p⟩ names then
          .error (.passFailed "blocking" (tooManyLevels (Context.blockLevels ⟨o, p⟩)))
        else .ok ⟨(effects ⟨o, p⟩ names).apply { root }, Ledger.after elapsed 0 {} names⟩ := by
  obtain ⟨passes, hresolve, rfl, hmem⟩ := Library.resolve_eq_ok h p
  refine ⟨⟨o, p, passes⟩, by rw [Target.custom, hresolve], fun elapsed root => ?_⟩
  exact runFrom_eq hmem ⟨o, p⟩ elapsed 0 _

/-! ## 3. Order -/

/-- The names of a sequence decide what it does and whether it fails; their order and number do not. -/
theorem effects_congr {s t : List String} (same : ∀ x, x ∈ s ↔ x ∈ t) (ctx : Context) (u : TranslationUnit) :
    (effects ctx s).apply u = (effects ctx t).apply u := by
  refine Effect.apply_all_congr (fun e => ?_) u
  rw [List.mem_map, List.mem_map]
  exact exists_congr fun x => and_congr_left fun _ => same x

/-- **Order and repetition do not matter.**  Two sequences of known names that have the same names leave
    the same tree and the same headers, or both fail at `blocking` with the same complaint. -/
theorem process_eq_of_same_names {s t : List String} (known : ∀ x ∈ s, x ∈ Library.processor.names)
    (same : ∀ x, x ∈ s ↔ x ∈ t) (o : Options) (p : Platform) (elapsed elapsed' : Nat → Duration) (root : Node) :
    ∃ a b, Target.custom s o p Library.processor = .ok a ∧ Target.custom t o p Library.processor = .ok b ∧
      ((∃ ra rb, a.process elapsed root = .ok ra ∧ b.process elapsed' root = .ok rb ∧
          ra.unit.root = rb.unit.root ∧ ra.unit.includes = rb.unit.includes) ∨
        (∃ failure, a.process elapsed root = .error (.passFailed "blocking" failure) ∧
          b.process elapsed' root = .error (.passFailed "blocking" failure))) := by
  obtain ⟨a, ha, runa⟩ := process_custom_eq known o p
  obtain ⟨b, hb, runb⟩ := process_custom_eq (fun x hx => known x ((same x).2 hx)) o p
  have blocked : Blocked ⟨o, p⟩ t ↔ Blocked ⟨o, p⟩ s := and_congr_left fun _ => (same "blocking").symm
  refine ⟨a, b, ha, hb, ?_⟩
  rw [runa, runb]
  by_cases h : Blocked ⟨o, p⟩ s
  · rw [if_pos h, if_pos (blocked.2 h)]
    exact Or.inr ⟨_, rfl, rfl⟩
  · rw [if_neg h, if_neg fun ht => h (blocked.1 ht), ← effects_congr same]
    exact Or.inl ⟨_, _, rfl, rfl, rfl, rfl⟩

/-- Vectors first or processes first, once or twice: a loop inside a loop ends up the same. -/
theorem process_eq_of_same_names_nest :
    (∀ x ∈ ["simd", "mpi"], x ∈ Library.processor.names) ∧
    (∀ x, x ∈ ["simd", "mpi"] ↔ x ∈ ["mpi", "simd", "mpi"]) ∧
    ∃ a b, Target.custom ["simd", "mpi"] {} .knl Library.processor = .ok a ∧
      Target.custom ["mpi", "simd", "mpi"] {} .knl Library.processor = .ok b ∧
      ((∃ ra rb, a.process (fun _ => 0) (.iteration "x" [.iteration "y" []]) = .ok ra ∧
          b.process (fun n => n) (.iteration "x" [.iteration "y" []]) = .ok rb ∧
          ra.unit.root = rb.unit.root ∧ ra.unit.includes = rb.unit.includes) ∨
        (∃ failure, a.process (fun _ => 0) (.iteration "x" [.iteration "y" []]) =
            .error (.passFailed "blocking" failure) ∧
          b.process (fun n => n) (.iteration "x" [.iteration "y" []]) =
            .error (.passFailed "blocking" failure))) := by
  have known : ∀ x ∈ ["simd", "mpi"], x ∈ Library.processor.names := by decide
  have same : ∀ x, x ∈ ["simd", "mpi"] ↔ x ∈ ["mpi", "simd", "mpi"] := by
    intro x
    simp only [List.mem_cons, List.not_mem_nil, or_false]
    constructor
    · rintro (h | h) <;> simp [h]
    · rintro (h | h | h) <;> simp [h]
  exact ⟨known, same, process_eq_of_same_names known same {} .knl _ _ _⟩

end Pass

end LoopLowering
