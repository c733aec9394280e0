/-
  Definitions that a command loads.

  A command that is given the definition of a platform looks for the file, reads it, lists all findings about it,
  and goes on unless there are errors among them.

  1.  VERDICT.  All that depends on the file is its text, and what a text leads to is a function: the platform or
      a fault, and the complaints (`verdict`).  Loading asks whether there is a file and for its text,
      and then follows the verdict, whatever the surroundings are (`run_loadChecked`).

  2.  ACCEPTANCE.  A text is accepted exactly if it defines a platform without errors (`verdict_eq_ok_iff`), so
      what has been accepted is sound (`loadChecked_sound`).
-/
import LoopLowering.CommandLine.Platforms
import LoopLowering.Proofs.Platform.Definition
import LoopLowering.Proofs.Platform.Validation

namespace LoopLowering.CommandLine

open Session

/-! ## 1. Verdict -/

/-- The complaint about a finding in a file. -/
def findingNote (path : String) (i : Platform.Issue) : Note :=
  .complaint s!"{i.severity.word}: {path}: {i.message}"

/-- What a platform from a path leads to: all findings are complained about, and errors make it unusable. -/
def examined (path : String) (p : Platform) (t : Transcript) : Except Fault Platform × Transcript :=
  (if p.errors = [] then .ok p else .error { cause := .invalidPlatform path p.errors.length },
    { t with notes := t.notes ++ p.issues.map (findingNote path) })

/-- What a text at a path leads to, if it is to define a platform. -/
def verdict (path text : String) (t : Transcript) : Except Fault Platform × Transcript :=
  match Platform.read? text with
  | none => (.error ⟨some (.loading path), .file .notPlatform⟩, t)
  | some p => examined path p t

section Loading

variable {m : Type → Type} [Monad m]

/-- A session goes on with what a first part gives, unless that ends it. -/
theorem run_bind {α β : Type} (first : Session m α) (next : α → Session m β) (t : Transcript) :
    (first >>= next).run.run t = (do
      match ← first.run.run t with
      | (.ok a, t') => (next a).run.run t'
      | (.error fault, t') => return (.error fault, t')) := by
  rw [ExceptT.run_bind, StateT.run_bind]
  congr
  funext ⟨ended, t'⟩
  cases ended <;> rfl

theorem run_settle {α ε : Type} (during : Option Activity) (cause : ε → Cause) (result : Except ε α)
    (t : Transcript) :
    (settle during cause result : Session m α).run.run t =
      return (result.mapError fun e => ⟨during, cause e⟩, t) := by
  cases result <;> rfl

variable [LawfulMonad m]

theorem run_ask {α : Type} (action : m α) (t : Transcript) :
    (ask action : Session m α).run.run t = (do return (.ok (← action), t)) := by
  simp [ask]

theorem run_complain (text : String) (t : Transcript) :
    (complain text : Session m Unit).run.run t =
      return (.ok (), { t with notes := t.notes ++ [.complaint text] }) :=
  pure_bind _ _

/-- Complaints are noted in order. -/
theorem run_complainAll {α : Type} (l : List α) (text : α → String) (t : Transcript) :
    (forIn l PUnit.unit fun a _ => do
        complain (text a)
        return ForInStep.yield PUnit.unit : Session m PUnit).run.run t =
      return (.ok (), { t with notes := t.notes ++ l.map fun a => .complaint (text a) }) := by
  induction l generalizing t with
  | nil =>
    rw [List.forIn_nil, List.map_nil, List.append_nil]
    rfl
  | cons a rest ih =>
    rw [List.forIn_cons, bind_assoc, run_bind, run_complain, pure_bind]
    dsimp only
    rw [pure_bind, ih, List.map_cons, List.append_assoc]
    rfl

/-- Goes on with a platform that was loaded, unless it has errors. -/
def examine (path : String) (loaded : Except FileError Platform) : Session m Platform := do
  let platform ← settle (some (.loading path)) .file loaded
  for issue in platform.issues do
    complain s!"{issue.severity.word}: {path}: {issue.message}"
  match platform.errors.length with
  | 0 => return platform
  | errors => throw { cause := .invalidPlatform path errors }

theorem run_examine (path : String) (loaded : Except FileError Platform) (t : Transcript) :
    (examine path loaded : Session m Platform).run.run t =
      return match loaded with
        | .error e => (.error ⟨some (.loading path), .file e⟩, t)
        | .ok p => examined path p t := by
  rw [examine, run_bind, run_settle, pure_bind]
  cases loaded with
  | error e => rfl
  | ok p =>
    dsimp only [Except.mapError]
    rw [run_bind, run_complainAll, pure_bind]
    dsimp only
    rw [examined]
    cases p.errors with
    | nil => rfl
    | cons first rest => rfl

/-- **Loading follows the verdict on the text of the file.** -/
theorem run_loadChecked (host : Host m) (path : String) (t : Transcript) :
    (loadChecked host path).run.run t = (do
      if ← host.files.isPresent path then
        match ← host.files.read path with
        | .error reason => return (.error ⟨some (.loading path), .file (.unreadable reason)⟩, t)
        | .ok text => return verdict path text t
      else return (.error ⟨some (.loading path), .file (.platformMissing path)⟩, t)) := by
  have parts : loadChecked host path = (do examine path (← ask (host.files.loadPlatform path))) := rfl
  rw [parts, run_bind, run_ask, bind_assoc]
  simp only [pure_bind, run_examine]
  rw [FileStore.loadPlatform, bind_assoc]
  congr
  funext present
  cases present with
  | false => exact pure_bind _ _
  | true =>
    simp only [if_true]
    rw [FileStore.load, bind_assoc]
    congr
    funext found
    cases found with
    | error reason => exact pure_bind _ _
    | ok text =>
      dsimp only
      rw [verdict]
      cases Platform.read? text with
      | none => exact pure_bind _ _
      | some p => exact pure_bind _ _

end Loading

/-! ## 2. Acceptance -/

/-- **A text is accepted exactly if it defines a platform without errors**, whatever warnings there are. -/
theorem verdict_eq_ok_iff {path text : String} {t t' : Transcript} {p : Platform} :
    verdict path text t = (.ok p, t') ↔ Platform.read? text = some p ∧ p.errors = [] ∧
      t' = { t with notes := t.notes ++ p.warnings.map (findingNote path) } := by
  rw [verdict]
  cases Platform.read? text with
  | none => exact iff_of_false (fun accepted => nomatch congrArg Prod.fst accepted) nofun
  | some q =>
    dsimp only
    rw [examined, Prod.mk.injEq, Option.some_inj, q.issues_eq]
    by_cases fine : q.errors = []
    · rw [if_pos fine, fine, List.nil_append]
      constructor
      · rintro ⟨same, rfl⟩
        obtain rfl := Except.ok.inj same
        exact ⟨rfl, fine, rfl⟩
      · rintro ⟨rfl, -, rfl⟩
        exact ⟨rfl, rfl⟩
    · rw [if_neg fine]
      refine iff_of_false nofun ?_
      rintro ⟨rfl, none, -⟩
      exact fine none

/-- **What a check of a platform guarantees.**  There is an error about a platform exactly if its class is malformed,
    it has no threads, it has too many for 32 bits, or the width of its registers is neither zero nor a power of
    two.  It never has both no threads and too many.  Each finding is made on its own condition, errors first,
    so warnings neither replace nor suppress errors.  A session that loads a definition follows the verdict on
    its text, which accepts just the platforms without errors, and those are sound. -/
theorem loadChecked_sound {m : Type → Type} [Monad m] [LawfulMonad m] (host : Host m) :
    (∀ p : Platform,
      ((∃ i ∈ p.issues, i.severity = .error) ↔
        p.family.validate ≠ .ok () ∨ (p.cores = 0 ∨ p.threadsPerCore = 0) ∨
          2 ^ 32 ≤ p.cores.toNat * p.threadsPerCore.toNat ∨
          ¬ (p.vectorBytes = 0 ∨ ∃ k, p.vectorBytes.toNat = 2 ^ k)) ∧
      (∀ name cores threads, .noThreads name cores threads ∈ p.issues →
        ∀ name' cores' threads', .tooManyThreads name' cores' threads' ∉ p.issues) ∧
      (∀ i, i ∈ p.issues ↔ p.Found i) ∧
      p.issues = p.errors ++ p.warnings) ∧
    (∀ path t, (loadChecked host path).run.run t = (do
      if ← host.files.isPresent path then
        match ← host.files.read path with
        | .error reason => return (.error ⟨some (.loading path), .file (.unreadable reason)⟩, t)
        | .ok text => return verdict path text t
      else return (.error ⟨some (.loading path), .file (.platformMissing path)⟩, t))) ∧
    (∀ path text t p t', verdict path text t = (.ok p, t') ↔ Platform.read? text = some p ∧ p.errors = [] ∧
      t' = { t with notes := t.notes ++ p.warnings.map (findingNote path) }) ∧
    ∀ path text t p t', verdict path text t = (.ok p, t') → p.Sound := by
  refine ⟨fun p => ⟨p.exists_error_iff, fun _ _ _ few _ _ _ => p.not_few_and_many few, p.mem_issues_iff,
    p.issues_eq⟩, run_loadChecked host, fun _ _ _ _ _ => verdict_eq_ok_iff, ?_⟩
  intro path text t p t' accepted
  obtain ⟨-, fine, -⟩ := verdict_eq_ok_iff.1 accepted
  exact Platform.sound_of_errors_eq_nil fine

/-- Surroundings in which every file has the same text. -/
def uniform (text : String) : Host Id where
  files := ⟨fun _ => true, fun _ => true, fun _ => false, fun _ => .ok text, fun _ => .ok [], fun _ _ => .ok ()⟩
  directory := "/"
  clock := 0
  environment := []

theorem run_loadChecked_uniform (path text : String) (t : Transcript) :
    (loadChecked (uniform text) path).run.run t = verdict path text t :=
  run_loadChecked (uniform text) path t

/-- A platform that is accepted in spite of two warnings. -/
theorem loadChecked_sound_warned :
    let p : Platform :=
      ⟨"edge", ⟨"arm-edge", ["arm-edge", "arm", "cpu64", "platform"]⟩, .neon, 4, 2, 0, 0⟩
    (loadChecked (uniform p.definition) "edge.toml").run.run {} =
      (.ok p, { notes := [.missingVectorWidth .neon, .noBlocking].map (findingNote "edge.toml") }) ∧
    p.Sound := by
  intro p
  have read : Platform.read? p.definition = some p := by
    rw [Platform.read?, Toml.read?, Platform.definition, String.toList_ofList, Platform.ofChars?_definitionChars]
    exact p.ofToml?_fields
  have fine : p.errors = [] := by decide +kernel
  have warned : p.warnings = [.missingVectorWidth .neon, .noBlocking] := by decide +kernel
  obtain ⟨-, -, accepts, sound⟩ := loadChecked_sound (uniform p.definition)
  have accepted := (accepts "edge.toml" p.definition {} p _).2 ⟨read, fine, rfl⟩
  rw [run_loadChecked_uniform, ← warned]
  exact ⟨accepted, sound _ _ _ _ _ accepted⟩

end LoopLowering.CommandLine
