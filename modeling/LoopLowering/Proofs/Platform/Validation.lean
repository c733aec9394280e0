/-
  Findings about a platform, and what a platform without errors is good for.

  1.  FINDINGS.  Each of the six kinds of finding has a condition of its own, which is stated here without words of
      32 bits and without the order of the checks (`Found`).  All findings are made whose conditions hold, and
      no others (`mem_issues_iff`).

  2.  ERRORS.  So no finding stands in the way of another, and as errors are listed in front of warnings, a list of
      findings is that of the errors and then that of the warnings (`issues_eq`).  There is an error exactly
      if one of four conditions holds (`exists_error_iff`).  A platform cannot have both no threads and
      too many (`not_few_and_many`).

  3.  SOUND PLATFORMS.  Without errors, the number of hardware threads is the product, which is not cut off, and the
      other numbers and the lineage can be relied on as well (`sound_of_errors_eq_nil`).
-/
import LoopLowering.Platform.Validation
import Mathlib.Algebra.Group.Nat.Defs

namespace LoopLowering.Platform

/-! ## 1. Findings -/

/-- The findings that there are about a platform. -/
inductive Found (p : Platform) : Issue → Prop
  | malformedClass {m : PlatformClass.Malformed} (refused : p.family.validate = .error m) :
      Found p (.malformedClass m)
  | noThreads (few : p.cores = 0 ∨ p.threadsPerCore = 0) : Found p (.noThreads p.name p.cores p.threadsPerCore)
  | tooManyThreads (many : 2 ^ 32 ≤ p.cores.toNat * p.threadsPerCore.toNat) :
      Found p (.tooManyThreads p.name p.cores p.threadsPerCore)
  | oddVectorWidth (nonzero : p.vectorBytes ≠ 0) (odd : ¬ ∃ k, p.vectorBytes.toNat = 2 ^ k) :
      Found p (.oddVectorWidth p.vectorBytes)
  | missingVectorWidth (registers : p.vectorUnit.hasRegisters = true) (zero : p.vectorBytes = 0) :
      Found p (.missingVectorWidth p.vectorUnit)
  | noBlocking (zero : p.blockLevels = 0) : Found p .noBlocking

/-- The finding about the class, if there is one. -/
def classIssues (p : Platform) : List Issue :=
  match p.family.defect? with
  | some defect => [.malformedClass ⟨p.family.tag, defect⟩]
  | none => []

theorem mem_classIssues {p : Platform} {i : Issue} :
    i ∈ p.classIssues ↔ ∃ m, p.family.validate = .error m ∧ i = .malformedClass m := by
  rw [classIssues, PlatformClass.validate]
  cases p.family.defect? with
  | none =>
    refine iff_of_false List.not_mem_nil ?_
    rintro ⟨m, refused, -⟩
    cases refused
  | some defect =>
    rw [List.mem_singleton]
    constructor
    · rintro rfl
      exact ⟨_, rfl, rfl⟩
    · rintro ⟨m, refused, rfl⟩
      rw [Except.error.inj refused]

theorem mem_issueIf {condition : Bool} {i j : Issue} : i ∈ issueIf condition j ↔ condition = true ∧ i = j := by
  cases condition with
  | false => exact iff_of_false List.not_mem_nil fun ⟨holds, _⟩ => nomatch holds
  | true => exact List.mem_singleton.trans (and_iff_right rfl).symm

/-- The findings of the checks, one check after the other. -/
theorem issues_eq_checks (p : Platform) :
    p.issues = p.classIssues ++
      issueIf (p.cores = 0 || p.threadsPerCore = 0) (.noThreads p.name p.cores p.threadsPerCore) ++
      issueIf (UInt32.size ≤ p.cores.toNat * p.threadsPerCore.toNat)
        (.tooManyThreads p.name p.cores p.threadsPerCore) ++
      issueIf (p.vectorBytes ≠ 0 && !isPowerOfTwo p.vectorBytes.toNat) (.oddVectorWidth p.vectorBytes) ++
      issueIf (p.vectorUnit.hasRegisters && p.vectorBytes = 0) (.missingVectorWidth p.vectorUnit) ++
      issueIf (p.blockLevels = 0) .noBlocking := rfl

/-- **All findings are made whose conditions hold, and no others.** -/
theorem mem_issues_iff (p : Platform) (i : Issue) : i ∈ p.issues ↔ Found p i := by
  have odd : isPowerOfTwo p.vectorBytes.toNat = false ↔ ¬ ∃ k, p.vectorBytes.toNat = 2 ^ k := by
    rw [← Bool.not_eq_true, isPowerOfTwo_iff]
    rfl
  rw [issues_eq_checks]
  simp only [List.mem_append, mem_classIssues, mem_issueIf, Bool.or_eq_true, Bool.and_eq_true,
    Bool.not_eq_true', decide_eq_true_eq, odd]
  constructor
  · rintro (((((⟨m, refused, rfl⟩ | ⟨few, rfl⟩) | ⟨many, rfl⟩) | ⟨⟨nonzero, odd⟩, rfl⟩) |
      ⟨⟨registers, zero⟩, rfl⟩) | ⟨zero, rfl⟩)
    · exact .malformedClass refused
    · exact .noThreads few
    · exact .tooManyThreads many
    · exact .oddVectorWidth nonzero odd
    · exact .missingVectorWidth registers zero
    · exact .noBlocking zero
  · intro found
    cases found with
    | malformedClass refused => exact .inl (.inl (.inl (.inl (.inl ⟨_, refused, rfl⟩))))
    | noThreads few => exact .inl (.inl (.inl (.inl (.inr ⟨few, rfl⟩))))
    | tooManyThreads many => exact .inl (.inl (.inl (.inr ⟨many, rfl⟩)))
    | oddVectorWidth nonzero odd => exact .inl (.inl (.inr ⟨⟨nonzero, odd⟩, rfl⟩))
    | missingVectorWidth registers zero => exact .inl (.inr ⟨⟨registers, zero⟩, rfl⟩)
    | noBlocking zero => exact .inr ⟨zero, rfl⟩

/-! ## 2. Errors -/

/-- The findings that a definition can be used in spite of. -/
def warnings (p : Platform) : List Issue := p.issues.filter fun i => i.severity = .warning

/-- Findings that are all as bad are kept or dropped together. -/
theorem filter_of_severity {l : List Issue} {common : Severity} (all : ∀ i ∈ l, i.severity = common)
    (s : Severity) : (l.filter fun i => i.severity = s) = if common = s then l else [] := by
  by_cases same : common = s
  · rw [if_pos same]
    exact List.filter_eq_self.2 fun i hi => decide_eq_true ((all i hi).trans same)
  · rw [if_neg same]
    exact List.filter_eq_nil_iff.2 fun i hi found => same ((all i hi).symm.trans (of_decide_eq_true found))

theorem filter_classIssues (p : Platform) (s : Severity) :
    (p.classIssues.filter fun i => i.severity = s) = if .error = s then p.classIssues else [] := by
  refine filter_of_severity (fun i hi => ?_) s
  obtain ⟨m, -, rfl⟩ := mem_classIssues.1 hi
  rfl

theorem filter_issueIf (condition : Bool) (j : Issue) (s : Severity) :
    ((issueIf condition j).filter fun i => i.severity = s) =
      if j.severity = s then issueIf condition j else [] := by
  refine filter_of_severity (fun i hi => ?_) s
  rw [(mem_issueIf.1 hi).2]

/-- **Errors come first, and warnings take nothing from them.** -/
theorem issues_eq (p : Platform) : p.issues = p.errors ++ p.warnings := by
  rw [errors, warnings, issues_eq_checks]
  simp only [List.filter_append, filter_issueIf, filter_classIssues]
  simp [Issue.severity]

/-- **When there is an error.** -/
theorem exists_error_iff (p : Platform) :
    (∃ i ∈ p.issues, i.severity = .error) ↔
      p.family.validate ≠ .ok () ∨ (p.cores = 0 ∨ p.threadsPerCore = 0) ∨
        2 ^ 32 ≤ p.cores.toNat * p.threadsPerCore.toNat ∨
        ¬ (p.vectorBytes = 0 ∨ ∃ k, p.vectorBytes.toNat = 2 ^ k) := by
  constructor
  · rintro ⟨i, hi, severe⟩
    cases (mem_issues_iff p i).1 hi with
    | malformedClass refused => exact .inl (by rw [refused]; exact nofun)
    | noThreads few => exact .inr (.inl few)
    | tooManyThreads many => exact .inr (.inr (.inl many))
    | oddVectorWidth nonzero odd => exact .inr (.inr (.inr (not_or.2 ⟨nonzero, odd⟩)))
    | missingVectorWidth => cases severe
    | noBlocking => cases severe
  · rintro (refused | few | many | odd)
    · cases checked : p.family.validate with
      | ok _ => exact absurd checked refused
      | error m => exact ⟨_, (mem_issues_iff p _).2 (.malformedClass checked), rfl⟩
    · exact ⟨_, (mem_issues_iff p _).2 (.noThreads few), rfl⟩
    · exact ⟨_, (mem_issues_iff p _).2 (.tooManyThreads many), rfl⟩
    · exact ⟨_, (mem_issues_iff p _).2 (.oddVectorWidth (not_or.1 odd).1 (not_or.1 odd).2), rfl⟩

/-- A platform cannot have both no threads and too many of them. -/
theorem not_few_and_many (p : Platform) {name name' : String} {cores cores' threads threads' : UInt32}
    (few : .noThreads name cores threads ∈ p.issues) : .tooManyThreads name' cores' threads' ∉ p.issues := by
  intro many
  have none : p.cores.toNat * p.threadsPerCore.toNat = 0 := by
    cases (mem_issues_iff p _).1 few with
    | noThreads zero =>
      rcases zero with zero | zero
      · rw [zero]
        exact Nat.zero_mul _
      · rw [zero]
        exact Nat.mul_zero _
  cases (mem_issues_iff p _).1 many with
  | tooManyThreads overflow => omega

/-! ## 3. Sound platforms -/

/-- What can be relied on in a platform. -/
structure Sound (p : Platform) : Prop where
  nonempty : p.family.lineage ≠ []
  /-- The lineage starts at the class itself. -/
  starts : p.family.lineage.head? = some p.family.tag
  /-- The lineage ends at the universal class. -/
  ends : p.family.lineage.getLast? = some rootTag
  nodup : p.family.lineage.Nodup
  /-- The number of hardware threads is not cut off. -/
  threads_eq : p.logicalCores.toNat = p.cores.toNat * p.threadsPerCore.toNat
  threads_pos : 1 ≤ p.logicalCores.toNat
  width : p.vectorBytes ≠ 0 → ∃ k, p.vectorBytes.toNat = 2 ^ k

theorem errors_eq_nil_iff (p : Platform) : p.errors = [] ↔ ¬ ∃ i ∈ p.issues, i.severity = .error := by
  rw [errors, List.filter_eq_nil_iff]
  simp only [decide_eq_true_eq, not_exists, not_and]

/-- A number of hardware threads that fits is not cut off. -/
theorem toNat_logicalCores {p : Platform} (fits : p.cores.toNat * p.threadsPerCore.toNat < 2 ^ 32) :
    p.logicalCores.toNat = p.cores.toNat * p.threadsPerCore.toNat := by
  have size : UInt32.size = 2 ^ 32 := rfl
  rw [logicalCores, Nat.min_eq_left (by omega)]
  exact UInt32.toNat_ofNat_of_lt (size ▸ fits)

/-- **A platform without errors is sound.** -/
theorem sound_of_errors_eq_nil {p : Platform} (fine : p.errors = []) : p.Sound := by
  rw [errors_eq_nil_iff, exists_error_iff] at fine
  rw [not_or, not_or, not_or, not_or, ne_eq, Classical.not_not, Classical.not_not, Nat.not_le] at fine
  obtain ⟨valid, ⟨cores, threads⟩, fits, width⟩ := fine
  obtain ⟨starts, ends, nodup⟩ := PlatformClass.validate_eq_ok_iff.1 valid
  have nonempty := PlatformClass.lineage_ne_nil valid
  have positive : 0 < p.cores.toNat * p.threadsPerCore.toNat :=
    Nat.mul_pos (Nat.pos_of_ne_zero fun zero => cores (UInt32.toNat_inj.1 zero))
      (Nat.pos_of_ne_zero fun zero => threads (UInt32.toNat_inj.1 zero))
  have product := toNat_logicalCores fits
  exact ⟨nonempty, starts, ends, nodup, product, product ▸ positive, fun nonzero => width.resolve_left nonzero⟩

end LoopLowering.Platform
