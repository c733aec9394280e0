/-
  What is wrong or doubtful about a platform.

  Six checks, in the order in which their findings are listed.  The first four find ERRORS, which make
  a definition unusable:

    1.  the class is malformed;
    2.  there is no hardware thread;
    3.  the number of hardware threads does not fit 32 bits;
    4.  the width of a vector register is neither zero nor a power of two.

  The last two find WARNINGS:

    5.  the vector extension has registers, but their width is zero;
    6.  no level of blocking applies by default.
-/
import LoopLowering.Platform.Basic

namespace LoopLowering.Platform

/-- How bad a finding is. -/
inductive Severity where
  | error
  | warning
  deriving DecidableEq, Repr

/-- The word for a severity. -/
def Severity.word : Severity → String
  | error => "error"
  | warning => "warning"

/-- A finding about a platform. -/
inductive Issue where
  | malformedClass (m : PlatformClass.Malformed)
  | noThreads (name : String) (cores threads : UInt32)
  | tooManyThreads (name : String) (cores threads : UInt32)
  | oddVectorWidth (bytes : UInt32)
  | missingVectorWidth (unit : VectorUnit)
  | noBlocking
  deriving DecidableEq, Repr

namespace Issue

/-- How bad the finding is. -/
def severity : Issue → Severity
  | missingVectorWidth _ => .warning
  | noBlocking => .warning
  | _ => .error

/-- The wording of the finding. -/
def message : Issue → String
  | malformedClass m => m.message
  | noThreads name cores threads =>
    s!"platform '{name}' declares no hardware threads ({cores.toNat} cores x {threads.toNat} threads)"
  | tooManyThreads name cores threads =>
    s!"platform '{name}' logical core count overflows ({cores.toNat} cores x {threads.toNat} threads)"
  | oddVectorWidth bytes => s!"SIMD register width {bytes.toNat} bytes is not a power of 2"
  | missingVectorWidth unit =>
    s!"ISA {unit.title} implies SIMD registers but simd-reg-bytes is 0"
  | noBlocking => "default-block-levels is 0; blocking will be skipped unless requested"

end Issue

/-- Whether a number is a power of two. -/
def isPowerOfTwo (n : Nat) : Bool := n ≠ 0 && Nat.pow 2 n.log2 = n

theorem isPowerOfTwo_iff {n : Nat} : isPowerOfTwo n = true ↔ n.isPowerOfTwo := by
  constructor
  · intro h
    simp only [isPowerOfTwo, Bool.and_eq_true, decide_eq_true_eq] at h
    exact ⟨n.log2, h.2.symm⟩
  · rintro ⟨k, rfl⟩
    simp [isPowerOfTwo, Nat.log2_two_pow]

/-- The finding, if the condition holds. -/
def issueIf (condition : Bool) (issue : Issue) : List Issue := if condition then [issue] else []

/-- All findings about a platform, errors before warnings. -/
def issues (p : Platform) : List Issue :=
  (match p.family.defect? with
    | some defect => [.malformedClass ⟨p.family.tag, defect⟩]
    | none => []) ++
  issueIf (p.cores = 0 || p.threadsPerCore = 0) (.noThreads p.name p.cores p.threadsPerCore) ++
  issueIf (UInt32.size ≤ p.cores.toNat * p.threadsPerCore.toNat)
    (.tooManyThreads p.name p.cores p.threadsPerCore) ++
  issueIf (p.vectorBytes ≠ 0 && !isPowerOfTwo p.vectorBytes.toNat) (.oddVectorWidth p.vectorBytes) ++
  issueIf (p.vectorUnit.hasRegisters && p.vectorBytes = 0) (.missingVectorWidth p.vectorUnit) ++
  issueIf (p.blockLevels = 0) .noBlocking

/-- The findings that make a definition unusable. -/
def errors (p : Platform) : List Issue := p.issues.filter fun i => i.severity = .error

end LoopLowering.Platform
