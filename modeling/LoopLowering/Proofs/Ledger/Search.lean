/-
  The search for a label, step by step.

  1.  STAGES.  A search begins with the name of the pass and the number of its runs.  As long as the label at
      hand finds an entry, it goes on to the name with the number, and raises the number.  `Tried` says
      which stages come up, and which labels were tried in vain before (`failed`), one for each step.

  2.  STEPS.  The labels tried so far are the first candidates, and those in vain are taken (`Tried.candidates`,
      `Tried.subset`).  Candidates are distinct, so each try in vain met another label of the ledger
      (`Tried.nodup`), and there are no more of them than entries (`Tried.length_le`).

  3.  THE END.  So a free label is found (`Tried.firstFree`), and all stages are stages on the way to it
      (`Tried.isPrefix`).  Nothing is asked of the ledger: its labels may repeat, and no run may have left it.
-/
import LoopLowering.Proofs.Ledger.Labels

namespace LoopLowering.Ledger

/-! ## 1. Stages -/

/-- `Tried l pass failed label next`: a search for a label of the pass comes to try `label`, after it tried
    those of `failed` in vain, and would go on with the number `next`. -/
inductive Tried (l : Ledger) (pass : String) : List String → String → Nat → Prop
  | start : Tried l pass [] pass (l.passes.count pass)
  | again {failed : List String} {label : String} {next : Nat} (before : Tried l pass failed label next)
      (taken : (l.get? label).isSome = true) :
      Tried l pass (failed ++ [label]) (numbered pass next) (next + 1)

theorem isSome_get?_iff {l : Ledger} {label : String} : (l.get? label).isSome = true ↔ label ∈ l.labels := by
  rw [Option.isSome_iff_ne_none, ne_eq, get?_eq_none, Classical.not_not]

/-! ## 2. Steps -/

theorem candidates_concat (pass : String) (next : Nat) (label : String) (count : Nat) :
    candidates pass next label (count + 1) = candidates pass next label count ++ [numbered pass (next + count)] := by
  rw [candidates, candidates, List.range'_1_concat, List.map_append]
  rfl

theorem candidates_isPrefix (pass : String) (next : Nat) (label : String) {m n : Nat} (h : m ≤ n) :
    candidates pass next label m <+: candidates pass next label n := by
  induction h with
  | refl => exact List.prefix_rfl
  | step _ ih =>
    rw [candidates_concat]
    exact ih.trans (List.prefix_append _ _)

section Stage

variable {l : Ledger} {pass : String} {failed failed' : List String} {label label' : String} {next next' : Nat}

/-- What was tried so far are the first candidates, and the number stands behind them. -/
theorem Tried.candidates (h : Tried l pass failed label next) :
    failed ++ [label] = candidates pass (l.passes.count pass) pass failed.length ∧
      next = l.passes.count pass + failed.length := by
  induction h with
  | start => exact ⟨rfl, rfl⟩
  | again _ _ ih =>
    obtain ⟨tried, number⟩ := ih
    rw [List.length_append, List.length_singleton, candidates_concat, ← tried, ← number, number]
    exact ⟨rfl, rfl⟩

theorem Tried.subset (h : Tried l pass failed label next) : failed ⊆ l.labels := by
  induction h with
  | start => exact List.nil_subset _
  | again _ taken ih =>
    exact List.append_subset.2 ⟨ih, List.cons_subset.2 ⟨isSome_get?_iff.1 taken, List.nil_subset _⟩⟩

/-- No label is tried twice. -/
theorem Tried.nodup (h : Tried l pass failed label next) : (failed ++ [label]).Nodup := by
  rw [h.candidates.1]
  exact nodup_candidates pass _ _

/-- **No more tries in vain than entries.** -/
theorem Tried.length_le (h : Tried l pass failed label next) : failed.length ≤ l.size := by
  have distinct : failed.Nodup := h.nodup.sublist (List.sublist_append_left _ _)
  have bound := distinct.length_le_of_subset h.subset
  rwa [length_labels] at bound

/-! ## 3. The end -/

/-- A search that may try some more comes to a stage of the same search. -/
theorem Tried.firstFree {tries : Nat} (h : Tried l pass failed label next) :
    ∃ failed' next', Tried l pass failed' (Ledger.firstFree l.labels pass next label tries) next' := by
  induction tries generalizing failed label next with
  | zero => exact ⟨failed, next, h⟩
  | succ tries ih =>
    rw [Ledger.firstFree]
    by_cases taken : label ∈ l.labels
    · rw [if_pos taken]
      exact ih (h.again (isSome_get?_iff.2 taken))
    · rw [if_neg taken]
      exact ⟨failed, next, h⟩

/-- Every stage is on the way to a free label. -/
theorem Tried.isPrefix (h : Tried l pass failed label next) (free : l.get? label = none)
    (h' : Tried l pass failed' label' next') : failed' <+: failed := by
  have tried := h.candidates.1
  have tried' := h'.candidates.1
  rcases Nat.lt_or_ge failed.length failed'.length with more | less
  · -- The free label would have been tried in vain.
    have way : failed ++ [label] <+: failed' ++ [label'] := by
      rw [tried, tried']
      exact candidates_isPrefix pass _ pass (Nat.le_of_lt more)
    have inside : failed ++ [label] <+: failed' := by
      refine List.prefix_of_prefix_length_le way (List.prefix_append _ _) ?_
      rw [List.length_append, List.length_singleton]
      exact more
    have taken : label ∈ l.labels := h'.subset (inside.subset (List.mem_append_right _ List.mem_cons_self))
    exact absurd taken (get?_eq_none.1 free)
  · have way : failed' ++ [label'] <+: failed ++ [label] := by
      rw [tried, tried']
      exact candidates_isPrefix pass _ pass less
    exact List.prefix_of_prefix_length_le ((List.prefix_append _ _).trans way) (List.prefix_append _ _) less

/-- There is one free label that a search comes to. -/
theorem Tried.unique (h : Tried l pass failed label next) (free : l.get? label = none)
    (h' : Tried l pass failed' label' next') (free' : l.get? label' = none) : label' = label := by
  have length : failed'.length = failed.length :=
    Nat.le_antisymm (h.isPrefix free h').length_le (h'.isPrefix free' h).length_le
  have same : failed' ++ [label'] = failed ++ [label] := by
    rw [h.candidates.1, h'.candidates.1, length]
  exact (List.cons.inj (List.append_inj same length).2).1

end Stage

/-- **Every search ends**, whatever the ledger.  At each stage the labels tried in vain are distinct and belong
    to entries, so there are no more of them than entries.  Some stage is at a free label; the search stops
    there, for all stages lead to it, and the new entry gets this label.  The bound on the number of tries is
    never felt: with more tries the same label is found. -/
theorem search_ends (l : Ledger) (pass : String) :
    (∀ failed label next, Tried l pass failed label next →
      failed.Nodup ∧ (∀ f ∈ failed, ∃ e ∈ l.entries, e.label = f) ∧ failed.length ≤ l.entries.length) ∧
    ∃ failed label next, Tried l pass failed label next ∧ l.get? label = none ∧
      (∀ failed' label' next', Tried l pass failed' label' next' → failed' <+: failed) ∧
      (∀ tries, l.entries.length ≤ tries →
        firstFree l.labels pass (l.passes.count pass) pass tries = label) ∧
      ∀ elapsed, l.record pass elapsed = ⟨l.entries ++ [⟨label, pass, elapsed⟩]⟩ := by
  refine ⟨?_, ?_⟩
  · intro failed label next h
    have distinct : failed.Nodup := h.nodup.sublist (List.sublist_append_left _ _)
    refine ⟨distinct, ?_, h.length_le⟩
    intro f hf
    exact List.mem_map.1 (h.subset hf)
  · -- The search of `nextLabel` ends at a free label, so all others end there.
    obtain ⟨failed, next, found⟩ : ∃ failed next, Tried l pass failed (l.nextLabel pass) next := Tried.firstFree .start
    have free : l.get? (l.nextLabel pass) = none := get?_eq_none.2 (l.nextLabel_not_mem pass)
    refine ⟨failed, l.nextLabel pass, next, found, free, fun _ _ _ h' => found.isPrefix free h', ?_, fun _ => rfl⟩
    intro tries enough
    obtain ⟨failed', next', found'⟩ : ∃ failed' next', Tried l pass failed'
      (firstFree l.labels pass (l.passes.count pass) pass tries) next' := Tried.firstFree .start
    have allowed : l.labels.length ≤ tries := by
      rw [length_labels]
      exact enough
    exact found.unique free found' (get?_eq_none.2 (firstFree_not_mem allowed pass _))

/-- Every entry can be met: the runs of `b` hold all labels that `a` tries before `a1`. -/
example : (Ledger.mk [⟨"a", "b", 0⟩, ⟨"a0", "b", 0⟩]).nextLabel "a" = "a1" := by decide

end LoopLowering.Ledger
