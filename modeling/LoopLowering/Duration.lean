/-
  Durations, and sums of them.

  A DURATION is a whole number of nanoseconds, shorter than 2^64 seconds.  Two durations have a sum only if
  that is short enough itself (`add?`).

  The sum of a list adds one duration after the other, and PANICS as soon as that is too long.  Since sums only
  grow, it gets through exactly if the whole is a duration (`sum_eq_fits`, `sum_eq_panics`).
-/

namespace LoopLowering

/-- Nanoseconds in a second. -/
def Duration.nanosPerSecond : Nat := 1000000000

/-- The first number of nanoseconds that is too long. -/
def Duration.limit : Nat := UInt64.size * nanosPerSecond

/-- A length of time. -/
@[ext]
structure Duration where
  nanos : Nat
  short : nanos < Duration.limit
  deriving DecidableEq, Repr

namespace Duration

/-- The longest duration. -/
def longest : Duration := ⟨limit - 1, by decide⟩

/-- A number of nanoseconds as a duration, at most the longest. -/
def ofNanos (n : Nat) : Duration := if short : n < limit then ⟨n, short⟩ else longest

-- Numbers stand for nanoseconds.
instance : Coe Nat Duration := ⟨ofNanos⟩

instance (n : Nat) : OfNat Duration n := ⟨ofNanos n⟩

instance : Inhabited Duration := ⟨0⟩

instance : ToString Duration := ⟨fun d => toString d.nanos⟩

/-! ## Adding -/

/-- The sum of two durations, unless it is too long. -/
def add? (a b : Duration) : Option Duration :=
  if short : a.nanos + b.nanos < limit then some ⟨a.nanos + b.nanos, short⟩ else none

theorem add?_eq_some {a b d : Duration} : a.add? b = some d ↔ d.nanos = a.nanos + b.nanos := by
  rw [add?]
  constructor
  · intro added
    split at added
    · rw [← Option.some.inj added]
    · cases added
  · intro exact
    rw [dif_pos (exact ▸ d.short)]
    exact congrArg some (Duration.ext exact.symm)

/-- What a sum of durations comes to. -/
inductive Sum where
  /-- It is a duration. -/
  | fits (total : Duration)
  /-- It is too long, and whoever asks for it panics. -/
  | panics
  deriving DecidableEq, Repr

instance : ToString Sum where
  toString
    | .fits total => toString total
    | .panics => "overflow in iter::sum over durations"

/-- The sum of a list, one duration added after the other. -/
def sum (durations : List Duration) : Sum :=
  match durations.foldlM add? 0 with
  | some total => .fits total
  | none => .panics

/-- The nanoseconds of a list together, however many. -/
def nanosAll : List Duration → Nat
  | [] => 0
  | d :: rest => d.nanos + nanosAll rest

/-- Adding goes through exactly to the nanoseconds together. -/
theorem foldlM_add?_eq_some {durations : List Duration} {a d : Duration} :
    durations.foldlM add? a = some d ↔ d.nanos = a.nanos + nanosAll durations := by
  induction durations generalizing a with
  | nil =>
    show some a = some d ↔ d.nanos = a.nanos
    rw [Option.some.injEq, Duration.ext_iff, eq_comm]
  | cons b rest ih =>
    rw [List.foldlM_cons, nanosAll]
    cases added : a.add? b with
    | none =>
      -- Too long already, and the rest cannot make it shorter.
      have long : ¬ a.nanos + b.nanos < limit := by
        intro short
        rw [add?, dif_pos short] at added
        cases added
      have short : d.nanos < limit := d.short
      constructor
      · intro impossible
        cases impossible
      · intro exact
        omega
    | some c =>
      have step : c.nanos = a.nanos + b.nanos := add?_eq_some.1 added
      show rest.foldlM add? c = some d ↔ _
      rw [ih, step, Nat.add_assoc]

/-- **A sum that is a duration is the exact one.** -/
theorem sum_eq_fits {durations : List Duration} {d : Duration} :
    sum durations = .fits d ↔ d.nanos = nanosAll durations := by
  have run : durations.foldlM add? 0 = some d ↔ d.nanos = 0 + nanosAll durations := foldlM_add?_eq_some
  rw [sum, ← Nat.zero_add (nanosAll durations), ← run]
  cases durations.foldlM add? 0 with
  | none =>
    constructor
    · intro panicked
      cases panicked
    · intro nothing
      cases nothing
  | some total => rw [Sum.fits.injEq, Option.some.injEq]

/-- **A sum panics exactly if there are more nanoseconds than in any duration.** -/
theorem sum_eq_panics {durations : List Duration} :
    sum durations = .panics ↔ limit ≤ nanosAll durations := by
  constructor
  · intro panicked
    refine Nat.le_of_not_lt fun short => ?_
    have fits : sum durations = .fits ⟨_, short⟩ := sum_eq_fits.2 rfl
    rw [panicked] at fits
    cases fits
  · intro long
    cases result : sum durations with
    | panics => rfl
    | fits d =>
      have exact : d.nanos = nanosAll durations := sum_eq_fits.1 result
      exact absurd (exact ▸ d.short) (Nat.not_lt.2 long)

/-- Nothing can be added to the longest duration, and a nanosecond is too much. -/
example : sum [longest, 0] = .fits longest ∧ sum [longest, 1] = .panics := by decide

end Duration

end LoopLowering
