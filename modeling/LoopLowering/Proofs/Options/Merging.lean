/-
  Merging overrides: a complaint, or all settings in order.

  1.  ONE OVERRIDE.  A recognized key expects a boolean or a number of levels; with a value that does
      not suit, the override has a complaint (`Override.complaint?`).  Without one, the override sets one
      field, or nothing if its key is not recognized (`Options.set`).

  2.  ALL OVERRIDES.  The first complaint is the outcome of a merge; without any, the overrides are set one
      after the other (`merge_result`).  The keys that were dropped are those not recognized before the
      first complaint (`merge_ignored`).
-/
import LoopLowering.Options.Basic

namespace LoopLowering

/-! ## 1. One override -/

namespace Override

/-- The keys of the options that are on or off. -/
def switches : List String := ["blockinner", "openmp", "mpi"]

/-- What a recognized key expects. -/
def expected? (key : String) : Option String :=
  if key ∈ switches then some "a boolean"
  else if key = "blocklevels" then some "a non-negative integer"
  else none

/-- Whether a value is what the key expects. -/
def suits (key : String) : OptionValue → Bool
  | .bool _ => key ∈ switches
  | .unset => key = "blocklevels"
  | .int i => key = "blocklevels" && decide (0 ≤ i.toInt ∧ i.toInt.toNat < UInt32.size)

/-- The complaint about an override, if its key is recognized and its value does not suit. -/
def complaint? (v : Override) : Option InvalidOption :=
  if suits v.1 v.2 then none else (expected? v.1).map fun expected => ⟨v.1, expected, v.2.display⟩

theorem key_cases (key : String) :
    key = "blockinner" ∨ key = "openmp" ∨ key = "mpi" ∨ key = "blocklevels" ∨ expected? key = none := by
  unfold expected?
  split
  · rename_i h
    simp only [switches, List.mem_cons, List.not_mem_nil, or_false] at h
    rcases h with h | h | h <;> simp [h]
  · split
    · rename_i h
      simp [h]
    · simp

/-- The keys that are recognized. -/
def keys : List String := ["blockinner", "blocklevels", "openmp", "mpi"]

/-- Nothing is expected of the keys that are not recognized, and of no others. -/
theorem expected?_isNone (key : String) : (expected? key).isNone = decide (key ∉ keys) := by
  rcases key_cases key with rfl | rfl | rfl | rfl | foreign
  · rfl
  · rfl
  · rfl
  · rfl
  · have unknown : key ∉ keys := by
      intro known
      simp only [keys, List.mem_cons, List.not_mem_nil, or_false] at known
      rcases known with rfl | rfl | rfl | rfl <;> cases foreign
    rw [foreign, decide_eq_true unknown]
    rfl

theorem complaint?_of_foreign {v : Override} (h : expected? v.1 = none) : complaint? v = none := by
  rw [complaint?, h, Option.map_none, ite_self]

theorem complaint?_levels (i : Int64) :
    complaint? ("blocklevels", .int i) =
      if 0 ≤ i.toInt ∧ i.toInt.toNat < UInt32.size then none
      else some ⟨"blocklevels", "a non-negative integer", (OptionValue.int i).display⟩ := by
  by_cases h : 0 ≤ i.toInt ∧ i.toInt.toNat < UInt32.size <;> simp [complaint?, suits, expected?, switches, h]

end Override

namespace Options

open Override (expected? complaint?)

/-- The options with a suitable override applied. -/
def set (o : Options) : Override → Options
  | (key, v) =>
    match key, v with
    | "blockinner", .bool b => { o with blockinner := b }
    | "openmp", .bool b => { o with openmp := b }
    | "mpi", .bool b => { o with mpi := b }
    | "blocklevels", .unset => { o with blocklevels := none }
    | "blocklevels", .int i => { o with blocklevels := some (UInt32.ofNat i.toInt.toNat) }
    | _, _ => o

/-- An override of a key that is not recognized does nothing. -/
theorem foreign_eq {v : Override} (h : expected? v.1 = none) (o : Options) :
    o.override v = .ok none ∧ o.set v = o := by
  obtain ⟨key, v⟩ := v
  have ne : ∀ name, (expected? name).isSome = true → key ≠ name := by
    rintro name known rfl
    rw [h] at known
    cases known
  have h1 := ne "blockinner" rfl
  have h2 := ne "openmp" rfl
  have h3 := ne "mpi" rfl
  have h4 := ne "blocklevels" rfl
  constructor
  · simp only [override]
    rfl
  · simp only [set]
    split <;> first | rfl | contradiction

/-- Applying one override complains, sets, or drops a key that is not recognized. -/
theorem override_eq (o : Options) (v : Override) :
    o.override v = match complaint? v with
      | some e => .error e
      | none => .ok (if (expected? v.1).isSome then some (o.set v) else none) := by
  obtain ⟨key, v⟩ := v
  rcases Override.key_cases key with rfl | rfl | rfl | rfl | h
  · cases v <;> rfl
  · cases v <;> rfl
  · cases v <;> rfl
  · cases v with
    | bool b => rfl
    | unset => rfl
    | int i =>
      rw [Override.complaint?_levels]
      show (do return some { o with blocklevels := ← levels "blocklevels" (.int i) } : Except _ _) = _
      by_cases h : 0 ≤ i.toInt ∧ i.toInt.toNat < UInt32.size
      · rw [levels, if_pos h, if_pos h]
        rfl
      · rw [levels, if_neg h, if_neg h]
        rfl
  · rw [(foreign_eq h o).1, Override.complaint?_of_foreign h]
    show _ = Except.ok (if (expected? key).isSome = true then _ else none)
    rw [h]
    rfl

/-! ## 2. All overrides -/

/-- **The first complaint is the outcome of a merge**; without any, all overrides are set in order. -/
theorem merge_result (o : Options) (l : List Override) :
    (o.merge l).result = match l.findSome? complaint? with
      | some e => .error e
      | none => .ok (l.foldl set o) := by
  induction l generalizing o with
  | nil => rfl
  | cons v rest ih =>
    rw [merge, override_eq, List.findSome?_cons]
    cases hv : complaint? v with
    | some e => rfl
    | none =>
      by_cases known : (expected? v.1).isSome = true
      · rw [if_pos known]
        exact ih (o.set v)
      · have idle : o.set v = o := (foreign_eq (Option.not_isSome_iff_eq_none.1 known) o).2
        rw [if_neg known, List.foldl_cons, idle]
        exact ih o

/-- The keys that a merge drops are those not recognized, up to the first complaint. -/
theorem merge_ignored (o : Options) (l : List Override) :
    (o.merge l).ignored =
      ((l.takeWhile fun v => (complaint? v).isNone).map Prod.fst).filter
        fun key => (expected? key).isNone := by
  induction l generalizing o with
  | nil => rfl
  | cons v rest ih =>
    rw [merge, override_eq, List.takeWhile_cons]
    cases hv : complaint? v with
    | some e => rfl
    | none =>
      by_cases known : (expected? v.1).isSome = true
      · have recognized : (expected? v.1).isNone = false := by rw [Option.isNone_eq_false_iff, known]
        rw [if_pos known]
        show ((o.set v).merge rest).ignored = ((v :: _).map Prod.fst).filter _
        rw [ih, List.map_cons, List.filter_cons, recognized]
        rfl
      · have foreign : (expected? v.1).isNone = true :=
          Option.isNone_iff_eq_none.2 (Option.not_isSome_iff_eq_none.1 known)
        rw [if_neg known]
        show v.1 :: (o.merge rest).ignored = ((v :: _).map Prod.fst).filter _
        rw [ih, List.map_cons, List.filter_cons, foreign]
        rfl

/-- Without complaints, a merge drops all keys not recognized. -/
theorem merge_ignored_of_fine (o : Options) {l : List Override} (h : l.findSome? complaint? = none) :
    (o.merge l).ignored = (l.map Prod.fst).filter fun key => (expected? key).isNone := by
  have fine : ∀ v ∈ l, (complaint? v).isNone = true := by
    intro v hv
    rw [List.findSome?_eq_none_iff.1 h v hv]
    rfl
  have all : (l ++ []).takeWhile _ = l ++ [].takeWhile _ := List.takeWhile_append_of_pos fine
  rw [List.append_nil, List.takeWhile_nil, List.append_nil] at all
  rw [merge_ignored, all]

end Options

end LoopLowering
