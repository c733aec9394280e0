/-
  Annotations of a loop tree.

  A property is one annotation; a node carries a SET of them.  The order in which a set is written is
  the order of the declarations below, blocking levels among themselves by number.  It is given by a
  numeric key (`Property.key`): the rank of the annotation, then the level in the low 32 bits, so that
  the order laws are those of the natural numbers (`Property.key_injective`).
-/
import LoopLowering.SortedSet

namespace LoopLowering

/-- An annotation of a node, set by the front end or by a pass. -/
inductive Property where
  /-- Carries a dependence; must never run in parallel. -/
  | sequential
  /-- The iterations are independent and run in parallel. -/
  | parallel
  /-- A parallel loop directly inside another parallel loop. -/
  | parallelNested
  /-- An innermost loop that runs in vector registers. -/
  | vectorized
  /-- A loop tiled at the given level of the hierarchy: 1 for blocks, 2 for sub-blocks, and so on. -/
  | blocked (level : UInt32)
  /-- A loop whose range is divided among processes. -/
  | distributed
  /-- A callable that flushes denormal numbers to zero on entry. -/
  | flushDenormals
  deriving DecidableEq, Repr, Inhabited

namespace Property

/-- The place of an annotation in the written order. -/
def key : Property → Nat
  | sequential => 0
  | parallel => 1 * UInt32.size
  | parallelNested => 2 * UInt32.size
  | vectorized => 3 * UInt32.size
  | blocked level => 4 * UInt32.size + level.toNat
  | distributed => 5 * UInt32.size
  | flushDenormals => 6 * UInt32.size

theorem key_injective {p q : Property} (h : p.key = q.key) : p = q := by
  have lt : ∀ n : UInt32, n.toNat < UInt32.size := fun n => n.toNat_lt
  cases p <;> cases q <;> simp only [key, UInt32.size] at h
  case blocked.blocked m n => exact congrArg blocked (UInt32.toNat_inj.1 (by omega))
  all_goals first
    | rfl
    | omega
    | (rename_i n; have := lt n; simp only [UInt32.size] at this; omega)

/-- Annotations are ordered by their keys. -/
instance : Ord Property := ⟨compareOn key⟩

instance : Std.TransOrd Property := inferInstanceAs (Std.TransCmp (compareOn key))

instance : Std.LawfulEqOrd Property where
  compare_self {p} := (Std.ReflOrd.compare_self : compare p.key p.key = .eq)
  eq_of_compare h := key_injective (Std.LawfulEqOrd.eq_of_compare (α := Nat) h)

end Property

/-- The annotations of a node. -/
abbrev PropertySet := SortedSet Property

end LoopLowering
