/-
  The labels of a ledger.

  1.  CANDIDATES.  The search for a label tries the pass's name and then the name with one number after the
      other.  These candidates are distinct, and if the search ended at a label that is taken, all it tried
      would be taken (`candidates_subset`): one more than the ledger has entries.  So the label of a new
      entry is free (`nextLabel_not_mem`), whatever the passes are called.

  2.  ONE STEP.  A ledger is SOUND if its labels are distinct and each is the name of its pass with at most
      a number behind it.  Recording keeps that (`Sound.record`).

  3.  RUNS.  Recording only appends, so a ledger that was recorded call by call is sound and holds the
      calls in order (`recordAll_sound`).  Labels being distinct, a label finds the time of its one entry
      (`Sound.get?_eq_some`).

  Times are durations, and their sum need not be one: the total is the exact sum of all times, or else a panic
  (`Ledger.total_eq_fits`, `Ledger.total_eq_panics`).
-/
import Mathlib.Algebra.GroupWithZero.Nat
import LoopLowering.Ledger

namespace LoopLowering.Ledger

open LoopLowering.Text

/-! ## 1. Candidates -/

theorem numbered_injective {pass : String} {m n : Nat} (h : numbered pass m = numbered pass n) : m = n := by
  have tails : String.ofList (Decimal.digits m) = String.ofList (Decimal.digits n) :=
    (String.append_right_inj pass).1 h
  exact Decimal.digits_injective (String.ofList_injective tails)

/-- A number adds something to a name. -/
theorem ne_numbered (pass : String) (n : Nat) : pass ≠ numbered pass n := by
  intro h
  have chars := congrArg String.toList h
  rw [numbered, String.toList_append, String.toList_ofList] at chars
  exact Decimal.digits_ne_nil n (List.self_eq_append_right.1 chars)

/-- What a search tries: a label, and then the pass's name with `count` numbers from `next` on. -/
def candidates (pass : String) (next : Nat) (label : String) (count : Nat) : List String :=
  label :: (List.range' next count).map (numbered pass)

theorem nodup_candidates (pass : String) (next count : Nat) :
    (candidates pass next pass count).Nodup := by
  refine List.nodup_cons.2 ⟨fun h => ?_, ?_⟩
  · obtain ⟨n, -, hn⟩ := List.mem_map.1 h
    exact ne_numbered pass n hn.symm
  · have distinct : (List.range' next count).Nodup := List.nodup_range' 1
    exact List.pairwise_map.2 (distinct.imp fun hne h => hne (numbered_injective h))

/-- A search that ends at a taken label found all its candidates taken. -/
theorem candidates_subset {taken : List String} {pass : String} {tries : Nat} :
    ∀ {next : Nat} {label : String}, firstFree taken pass next label tries ∈ taken →
      candidates pass next label tries ⊆ taken := by
  induction tries with
  | zero =>
    intro next label h x hx
    obtain rfl : x = label := List.mem_singleton.1 hx
    exact h
  | succ tries ih =>
    intro next label h
    rw [firstFree] at h
    by_cases hl : label ∈ taken
    · rw [if_pos hl] at h
      -- The rest of the candidates are those of the search that goes on.
      have rest : candidates pass (next + 1) (numbered pass next) tries ⊆ taken := ih h
      exact List.cons_subset.2 ⟨hl, rest⟩
    · rw [if_neg hl] at h
      exact absurd h hl

/-- Candidates that are all taken are fewer than the taken labels. -/
theorem lt_length_of_candidates {taken : List String} {pass : String} {next count : Nat}
    (all : candidates pass next pass count ⊆ taken) : count < taken.length := by
  have bound := (nodup_candidates pass next count).length_le_of_subset all
  rwa [candidates, List.length_cons, List.length_map, List.length_range'] at bound

/-- A search that may try as often as there are taken labels ends at a free one. -/
theorem firstFree_not_mem {taken : List String} {tries : Nat} (enough : taken.length ≤ tries) (pass : String)
    (next : Nat) : firstFree taken pass next pass tries ∉ taken :=
  fun h => Nat.not_lt.2 enough (lt_length_of_candidates (candidates_subset h))

theorem length_labels (l : Ledger) : l.labels.length = l.size := List.length_map _

/-- **The label of a new entry is free.** -/
theorem nextLabel_not_mem (l : Ledger) (pass : String) : l.nextLabel pass ∉ l.labels :=
  firstFree_not_mem (Nat.le_of_eq l.length_labels) pass _

/-- A label is the name of its pass, or that and a number. -/
def Named (label pass : String) : Prop := label = pass ∨ ∃ n, label = numbered pass n

theorem named_firstFree {taken : List String} {pass : String} {tries : Nat} :
    ∀ {next : Nat} {label : String}, Named label pass →
      Named (firstFree taken pass next label tries) pass := by
  induction tries with
  | zero => exact fun h => h
  | succ tries ih =>
    intro next label h
    rw [firstFree]
    split
    · exact ih (Or.inr ⟨next, rfl⟩)
    · exact h

theorem named_nextLabel (l : Ledger) (pass : String) : Named (l.nextLabel pass) pass :=
  named_firstFree (Or.inl rfl)

/-! ## 2. One step -/

/-- Labels are distinct, and each is made from the name of its pass. -/
structure Sound (l : Ledger) : Prop where
  distinct : l.labels.Nodup
  named : ∀ e ∈ l.entries, Named e.label e.pass

theorem sound_empty : Sound {} := ⟨List.nodup_nil, fun _ he => absurd he List.not_mem_nil⟩

/-- **Recording keeps a ledger sound.** -/
theorem Sound.record {l : Ledger} (h : l.Sound) (pass : String) (elapsed : Duration) :
    (l.record pass elapsed).Sound where
  distinct := by
    rw [labels_record, List.nodup_append]
    refine ⟨h.distinct, List.nodup_cons.2 ⟨List.not_mem_nil, List.nodup_nil⟩, fun a ha b hb => ?_⟩
    obtain rfl : b = l.nextLabel pass := List.mem_singleton.1 hb
    rintro rfl
    exact l.nextLabel_not_mem pass ha
  named e he := by
    rcases List.mem_append.1 he with he | he
    · exact h.named e he
    · obtain rfl := List.mem_singleton.1 he
      exact l.named_nextLabel pass

/-! ## 3. Runs -/

/-- The ledger after calls, each with a pass and its time. -/
def recordAll (l : Ledger) (calls : List (String × Duration)) : Ledger :=
  calls.foldl (fun l call => l.record call.1 call.2) l

/-- Recording only appends, and what it appends are the calls. -/
theorem entries_recordAll (l : Ledger) (calls : List (String × Duration)) :
    ∃ new, (l.recordAll calls).entries = l.entries ++ new ∧
      new.map (fun e => (e.pass, e.elapsed)) = calls := by
  induction calls generalizing l with
  | nil => exact ⟨[], (List.append_nil _).symm, rfl⟩
  | cons call rest ih =>
    obtain ⟨new, hnew, hcalls⟩ := ih (l.record call.1 call.2)
    refine ⟨⟨l.nextLabel call.1, call.1, call.2⟩ :: new, ?_, ?_⟩
    · show ((l.record call.1 call.2).recordAll rest).entries = _
      rw [hnew, record, List.append_assoc, List.singleton_append]
    · rw [List.map_cons, hcalls]

/-- What recording preserves, a run of calls preserves. -/
theorem recordAll_preserves {P : Ledger → Prop}
    (step : ∀ l pass elapsed, P l → P (l.record pass elapsed)) {l : Ledger} (h : P l)
    (calls : List (String × Duration)) : P (l.recordAll calls) := by
  induction calls generalizing l with
  | nil => exact h
  | cons call rest ih => exact ih (step l call.1 call.2 h)

/-- A run of calls keeps a ledger sound. -/
theorem Sound.recordAll {l : Ledger} (h : l.Sound) (calls : List (String × Duration)) :
    (l.recordAll calls).Sound :=
  recordAll_preserves (fun _ pass elapsed h => h.record pass elapsed) h calls

theorem get?_eq_none {l : Ledger} {label : String} : l.get? label = none ↔ label ∉ l.labels := by
  rw [get?, Option.map_eq_none_iff, List.find?_eq_none, labels, List.mem_map]
  constructor
  · rintro h ⟨e, he, hl⟩
    exact h e he (decide_eq_true hl)
  · intro h e he hl
    exact h ⟨e, he, of_decide_eq_true hl⟩

/-- A label finds the time of its one entry. -/
theorem Sound.get?_eq_some {l : Ledger} (h : l.Sound) {label : String} {elapsed : Duration} :
    l.get? label = some elapsed ↔ ∃ e ∈ l.entries, e.label = label ∧ e.elapsed = elapsed := by
  rw [get?, Option.map_eq_some_iff]
  constructor
  · rintro ⟨e, he, ht⟩
    have hl : e.label = label := by simpa using List.find?_some he
    exact ⟨e, List.mem_of_find?_eq_some he, hl, ht⟩
  · rintro ⟨e, he, rfl, rfl⟩
    obtain ⟨earlier, later, split⟩ := List.append_of_mem he
    have apart : l.entries.Pairwise fun a b => a.label ≠ b.label := List.pairwise_map.1 h.distinct
    rw [split, List.pairwise_append] at apart
    -- No entry before this one has its label, so the search comes to it.
    refine ⟨e, List.find?_eq_some_iff_append.2 ⟨decide_eq_true rfl, earlier, later, split, fun a ha => ?_⟩, rfl⟩
    have differs : a.label ≠ e.label := apart.2.2 a ha e List.mem_cons_self
    simpa using differs

theorem nanos_eq_sum (l : Ledger) : l.nanos = (l.entries.map fun e => e.elapsed.nanos).sum := by
  rw [nanos]
  induction l.entries with
  | nil => rfl
  | cons e rest ih => rw [List.map_cons, Duration.nanosAll, ih, List.map_cons, List.sum_cons]

/-- Names that end in digits meet the labels of other passes: `a1` is taken when `a` runs again, and so is
    `a2` when `a` runs for the third time. -/
example : (recordAll {} [("a1", 5), ("a", 1), ("a", 2), ("a", 3)]).labels = ["a1", "a", "a2", "a3"] := by
  decide

end LoopLowering.Ledger
