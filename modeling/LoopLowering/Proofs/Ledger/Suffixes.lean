/-
  The numbers behind the labels of a ledger.

  1.  SEARCH.  A search that begins at a taken label ends at a number behind the name, and all numbers that it
      passed over are taken (`firstFree_numbered`).

  2.  HISTORY.  A search begins at the number of times the pass has run, so it never looks at the numbers below.
      That none of them is free is a fact about the whole history of a ledger (`Filled`).  They begin at 1
      if the label without a number is held by the pass itself, and at 0 if another pass holds it.  One more
      run raises their bound by one, and the search takes the number at the bound unless it is taken already
      (`Filled.record`).

  3.  LEAST NUMBERS.  So the search finds the least number that is free, as if it had tried them all
      (`Filled.leastFree`).  The numbers below it are labels of entries, and so is the name, so it is no more
      than the number of entries (`LeastFree.le_size`).

  4.  RUNS.  The label of each entry of a run was found in the ledger of the calls before it
      (`getElem?_recordAll`).  What was taken then is taken later, so the numbers of a pass increase
      (`lt_of_numbered`).
-/
import Mathlib.Data.List.Infix
import LoopLowering.Proofs.Ledger.Labels

namespace LoopLowering.Ledger

open LoopLowering.Text

/-! ## 1. Search -/

theorem firstFree_of_free {taken : List String} {label : String} (free : label ∉ taken) (pass : String)
    (next tries : Nat) : firstFree taken pass next label tries = label := by
  cases tries with
  | zero => rfl
  | succ tries => rw [firstFree, if_neg free]

/-- A search that leads from a taken label to a free one finds a number, and what it passed over is taken. -/
theorem firstFree_numbered {taken : List String} {pass : String} {tries : Nat} :
    ∀ {next : Nat} {label : String}, label ∈ taken → firstFree taken pass next label tries ∉ taken →
      ∃ k, firstFree taken pass next label tries = numbered pass k ∧ next ≤ k ∧
        ∀ n, next ≤ n → n < k → numbered pass n ∈ taken := by
  induction tries with
  | zero => exact fun held free => absurd held free
  | succ tries ih =>
    intro next label held free
    rw [firstFree, if_pos held] at free ⊢
    by_cases again : numbered pass next ∈ taken
    · obtain ⟨k, found, above, passed⟩ := ih again free
      refine ⟨k, found, by omega, fun n atLeast below => ?_⟩
      by_cases first : n = next
      · rw [first]
        exact again
      · exact passed n (by omega) below
    · exact ⟨next, firstFree_of_free again pass _ _, Nat.le_refl next, fun n atLeast below => by omega⟩

theorem nextLabel_of_free {l : Ledger} {pass : String} (free : pass ∉ l.labels) : l.nextLabel pass = pass :=
  firstFree_of_free free pass _ _

/-- A name that is taken gets a number, and the numbers between the count of the runs and this one are taken. -/
theorem nextLabel_numbered {l : Ledger} {pass : String} (held : pass ∈ l.labels) :
    ∃ k, l.nextLabel pass = numbered pass k ∧ l.passes.count pass ≤ k ∧
      ∀ n, l.passes.count pass ≤ n → n < k → numbered pass n ∈ l.labels :=
  firstFree_numbered held (l.nextLabel_not_mem pass)

/-! ## 2. History -/

/-- Where the numbers begin behind the label of an entry: at 1 if the label is the name of its pass, and at 0
    if it is the name of another pass, whose first run gets a number too. -/
def Entry.firstNumber (e : Entry) : Nat := if e.pass = e.label then 1 else 0

/-- What a search relies on. -/
structure Filled (l : Ledger) : Prop where
  /-- The names of the passes that have run are taken. -/
  named : ∀ pass ∈ l.passes, pass ∈ l.labels
  /-- So are the numbers behind a label, below the count of the runs of the pass of that name. -/
  below : ∀ e ∈ l.entries, ∀ n, e.firstNumber ≤ n → n < l.passes.count e.label → numbered e.label n ∈ l.labels

theorem filled_empty : Filled {} :=
  ⟨fun _ hp => absurd hp List.not_mem_nil, fun _ he => absurd he List.not_mem_nil⟩

theorem mem_labels {l : Ledger} {e : Entry} (he : e ∈ l.entries) : e.label ∈ l.labels :=
  List.mem_map_of_mem he

theorem count_passes_record (l : Ledger) (pass name : String) (elapsed : Duration) :
    (l.record pass elapsed).passes.count name = l.passes.count name + if pass = name then 1 else 0 := by
  rw [passes_record, List.count_append, List.count_singleton]
  simp only [beq_iff_eq]

/-- Once the pass of a taken name has run, the number at the count of its earlier runs is taken. -/
theorem numbered_count_mem_record {l : Ledger} {pass : String} (held : pass ∈ l.labels) (elapsed : Duration) :
    numbered pass (l.passes.count pass) ∈ (l.record pass elapsed).labels := by
  obtain ⟨k, found, above, passed⟩ := nextLabel_numbered held
  rw [labels_record, found, List.mem_append, List.mem_singleton]
  rcases Nat.eq_or_lt_of_le above with same | later
  · exact Or.inr (congrArg (numbered pass) same)
  · exact Or.inl (passed _ (Nat.le_refl _) later)

/-- **Recording keeps the numbers filled.** -/
theorem Filled.record {l : Ledger} (h : l.Filled) (pass : String) (elapsed : Duration) :
    (l.record pass elapsed).Filled where
  named name ran := by
    rw [passes_record, List.mem_append, List.mem_singleton] at ran
    rw [labels_record, List.mem_append, List.mem_singleton]
    rcases ran with ran | rfl
    · exact Or.inl (h.named name ran)
    · by_cases held : name ∈ l.labels
      · exact Or.inl held
      · exact Or.inr (nextLabel_of_free held).symm
  below e he n atLeast bound := by
    rw [count_passes_record] at bound
    rcases List.mem_append.1 he with old | new
    · have before : n < l.passes.count e.label → numbered e.label n ∈ (l.record pass elapsed).labels := by
        intro earlier
        rw [labels_record]
        exact List.mem_append_left _ (h.below e old n atLeast earlier)
      -- Only a run of the pass that the label names raises the bound, and it takes the number there.
      by_cases same : pass = e.label
      · rw [if_pos same] at bound
        rcases Nat.lt_succ_iff_lt_or_eq.1 bound with earlier | rfl
        · exact before earlier
        · rw [same]
          exact numbered_count_mem_record (mem_labels old) elapsed
      · rw [if_neg same] at bound
        exact before bound
    · -- The label of the new entry was free, so the pass of that name had not run before.
      obtain rfl := List.mem_singleton.1 new
      have fresh : l.passes.count (l.nextLabel pass) = 0 :=
        List.count_eq_zero.2 fun ran => l.nextLabel_not_mem pass (h.named _ ran)
      dsimp only [Entry.firstNumber] at atLeast bound
      rw [fresh, Nat.zero_add] at bound
      exact absurd bound (Nat.not_lt.2 atLeast)

/-! ## 3. Least numbers -/

/-- The least number, from `first` on, that makes a free label of a name. -/
structure LeastFree (l : Ledger) (pass : String) (first k : Nat) : Prop where
  first_le : first ≤ k
  free : numbered pass k ∉ l.labels
  least : ∀ n, first ≤ n → n < k → numbered pass n ∈ l.labels

/-- **The search finds the least free number**: it begins at the count of the runs, and no number below is
    free. -/
theorem Filled.leastFree {l : Ledger} (h : l.Filled) {e : Entry} (he : e ∈ l.entries) {k : Nat}
    (found : l.nextLabel e.label = numbered e.label k) : l.LeastFree e.label e.firstNumber k := by
  obtain ⟨k', found', above, passed⟩ := nextLabel_numbered (mem_labels he)
  obtain rfl : k = k' := numbered_injective (found.symm.trans found')
  refine ⟨?_, found ▸ l.nextLabel_not_mem e.label, fun n atLeast below => ?_⟩
  · unfold Entry.firstNumber
    by_cases own : e.pass = e.label
    · have ran : 0 < l.passes.count e.label := List.count_pos_iff.2 (own ▸ List.mem_map_of_mem he)
      rw [if_pos own]
      omega
    · rw [if_neg own]
      exact Nat.zero_le k
  · rcases Nat.lt_or_ge n (l.passes.count e.label) with earlier | later
    · exact h.below e he n atLeast earlier
    · exact passed n later below

/-- The name and the numbers below the least free one are labels of entries. -/
theorem LeastFree.le_size {l : Ledger} {pass : String} {first k : Nat} (h : l.LeastFree pass first k)
    (held : pass ∈ l.labels) (few : first ≤ 1) : k ≤ l.size := by
  have all : candidates pass first pass (k - first) ⊆ l.labels := by
    refine List.cons_subset.2 ⟨held, fun label hl => ?_⟩
    obtain ⟨n, hn, rfl⟩ := List.mem_map.1 hl
    obtain ⟨atLeast, below⟩ := List.mem_range'_1.1 hn
    exact h.least n atLeast (by omega)
  have bound := lt_length_of_candidates all
  rw [length_labels] at bound
  omega

/-- Once the least free number is taken, and no label given up, the least free number is greater. -/
theorem LeastFree.lt {l l' : Ledger} {pass : String} {first j k : Nat} (h : l.LeastFree pass first j)
    (h' : l'.LeastFree pass first k) (grown : l.labels ⊆ l'.labels) (taken : numbered pass j ∈ l'.labels) :
    j < k := by
  rcases Nat.lt_trichotomy j k with less | rfl | greater
  · exact less
  · exact absurd taken h'.free
  · exact absurd (grown (h.least k h'.first_le greater)) h'.free

theorem Entry.firstNumber_le_one (e : Entry) : e.firstNumber ≤ 1 := by
  unfold firstNumber
  split <;> omega

/-! ## 4. Runs -/

theorem recordAll_append (l : Ledger) (calls more : List (String × Duration)) :
    l.recordAll (calls ++ more) = (l.recordAll calls).recordAll more :=
  List.foldl_append

theorem filled_recordAll (calls : List (String × Duration)) : (recordAll {} calls).Filled :=
  recordAll_preserves (fun _ pass elapsed h => h.record pass elapsed) filled_empty calls

/-- **The entries of a run.**  Each has the label that the ledger of the calls before it gives its pass. -/
theorem getElem?_recordAll (l : Ledger) (calls : List (String × Duration)) (i : Nat) :
    (l.recordAll calls).entries[l.size + i]? =
      calls[i]?.map fun call => ⟨(l.recordAll (calls.take i)).nextLabel call.1, call.1, call.2⟩ := by
  induction calls generalizing l i with
  | nil => exact List.getElem?_eq_none (Nat.le_add_right l.size i)
  | cons call rest ih =>
    cases i with
    | zero =>
      obtain ⟨new, grown, -⟩ := (l.record call.1 call.2).entries_recordAll rest
      show ((l.record call.1 call.2).recordAll rest).entries[l.size]? = _
      rw [grown, record, List.append_assoc, size, List.getElem?_append_right (Nat.le_refl _), Nat.sub_self]
      rfl
    | succ i =>
      have longer : l.size + (i + 1) = (l.record call.1 call.2).size + i := by
        rw [size, size, record, List.length_append, List.length_singleton]
        omega
      rw [longer]
      exact ih (l.record call.1 call.2) i

theorem getElem?_entries (calls : List (String × Duration)) (i : Nat) :
    (recordAll {} calls).entries[i]? =
      calls[i]?.map fun call => ⟨(recordAll {} (calls.take i)).nextLabel call.1, call.1, call.2⟩ := by
  rw [← getElem?_recordAll {} calls i, size, List.length_nil, Nat.zero_add]

theorem label_eq_nextLabel {calls : List (String × Duration)} {i : Nat} {e : Entry}
    (h : (recordAll {} calls).entries[i]? = some e) :
    e.label = (recordAll {} (calls.take i)).nextLabel e.pass := by
  rw [getElem?_entries] at h
  obtain ⟨call, -, rfl⟩ := Option.map_eq_some_iff.1 h
  rfl

/-- Calls that come later do not decide about an entry. -/
theorem getElem?_entries_take (calls : List (String × Duration)) {i j : Nat} (before : i < j) :
    (recordAll {} (calls.take j)).entries[i]? = (recordAll {} calls).entries[i]? := by
  rw [getElem?_entries, getElem?_entries, List.getElem?_take_of_lt before, List.take_take,
    Nat.min_eq_left (Nat.le_of_lt before)]

/-- More calls add entries. -/
theorem entries_take_isPrefix (calls : List (String × Duration)) {i j : Nat} (before : i ≤ j) :
    (recordAll {} (calls.take i)).entries <+: (recordAll {} (calls.take j)).entries := by
  obtain ⟨rest, split⟩ : calls.take i <+: calls.take j := List.take_isPrefix_take.2 (Or.inl before)
  obtain ⟨new, grown, -⟩ := (recordAll {} (calls.take i)).entries_recordAll rest
  rw [← split, recordAll_append]
  exact ⟨new, grown.symm⟩

theorem size_recordAll (calls : List (String × Duration)) : (recordAll {} calls).size = calls.length := by
  obtain ⟨new, grown, recorded⟩ := entries_recordAll {} calls
  have length := congrArg List.length recorded
  rw [List.length_map] at length
  rw [size, grown]
  exact length

/-- A number behind the name is found only if the name is taken. -/
theorem exists_of_numbered {l : Ledger} {pass : String} {k : Nat} (found : l.nextLabel pass = numbered pass k) :
    ∃ e ∈ l.entries, e.label = pass := by
  by_cases held : pass ∈ l.labels
  · exact List.mem_map.1 held
  · exact absurd ((nextLabel_of_free held).symm.trans found) (ne_numbered pass k)

/-- A number is no more than the number of entries before its own. -/
theorem le_of_numbered {calls : List (String × Duration)} {i k : Nat} {e : Entry}
    (here : (recordAll {} calls).entries[i]? = some e) (number : e.label = numbered e.pass k) : k ≤ i := by
  have found := (label_eq_nextLabel here).symm.trans number
  obtain ⟨holder, hholder, named⟩ := exists_of_numbered found
  rw [← named] at found
  have least := (filled_recordAll (calls.take i)).leastFree hholder found
  have bound := least.le_size (mem_labels hholder) holder.firstNumber_le_one
  rw [size_recordAll, List.length_take] at bound
  omega

/-- Of two runs of a pass that get numbers, the later one gets the greater number. -/
theorem lt_of_numbered {calls : List (String × Duration)} {i i' j k : Nat} {e e' : Entry} (before : i < i')
    (here : (recordAll {} calls).entries[i]? = some e) (there : (recordAll {} calls).entries[i']? = some e')
    (same : e.pass = e'.pass) (number : e.label = numbered e.pass j) (number' : e'.label = numbered e'.pass k) :
    j < k := by
  have found := (label_eq_nextLabel here).symm.trans number
  have found' := (label_eq_nextLabel there).symm.trans number'
  obtain ⟨holder, hholder, named⟩ := exists_of_numbered found
  rw [← same, ← named] at found'
  rw [← named] at found
  -- The later ledger has all entries of the earlier one, and the earlier run besides.
  have grown := entries_take_isPrefix calls (Nat.le_of_lt before)
  have taken : numbered holder.label j ∈ (recordAll {} (calls.take i')).labels := by
    rw [named, ← number]
    exact mem_labels (List.mem_of_getElem? ((getElem?_entries_take calls before).trans here))
  have least := (filled_recordAll (calls.take i)).leastFree hholder found
  have least' := (filled_recordAll (calls.take i')).leastFree (grown.subset hholder) found'
  exact least.lt least' (grown.map Entry.label).subset taken

/-- **Labels are found as if all numbers were tried.**  A pass gets its name as a label if that is free.
    Otherwise it gets the name with the least number that is free, from 1 on if the name is the label of a run
    of the pass, and from 0 on if it is the label of another pass.  All numbers below the count of the runs
    of the pass are taken, so nothing is lost by a search that begins there.  The numbers of a pass increase
    from run to run, and none exceeds the number of entries before it. -/
theorem recordAll_leastFree (calls : List (String × Duration)) :
    let l : Ledger := recordAll {} calls
    (∀ pass elapsed, pass ∉ l.labels → l.record pass elapsed = ⟨l.entries ++ [⟨pass, pass, elapsed⟩]⟩) ∧
    (∀ pass elapsed, ∀ e ∈ l.entries, e.label = pass →
      let first := if e.pass = pass then 1 else 0
      (∃ k, l.record pass elapsed = ⟨l.entries ++ [⟨numbered pass k, pass, elapsed⟩]⟩ ∧
        l.LeastFree pass first k ∧ k ≤ l.size) ∧
      ∀ n, first ≤ n → n < l.passes.count pass → numbered pass n ∈ l.labels) ∧
    (l.entries.Pairwise fun e e' => e.pass = e'.pass →
      ∀ j k, e.label = numbered e.pass j → e'.label = numbered e'.pass k → j < k) ∧
    (∀ i e k, l.entries[i]? = some e → e.label = numbered e.pass k → k ≤ i) := by
  intro l
  have filled : l.Filled := filled_recordAll calls
  refine ⟨fun pass elapsed free => ?_, ?_, ?_, fun i e k => le_of_numbered⟩
  · rw [record, nextLabel_of_free free]
  · rintro pass elapsed e he rfl
    obtain ⟨k, found, -, -⟩ := nextLabel_numbered (mem_labels he)
    have least := filled.leastFree he found
    exact ⟨⟨k, by rw [record, found], least, least.le_size (mem_labels he) e.firstNumber_le_one⟩,
      filled.below e he⟩
  · refine List.pairwise_iff_getElem.2 fun i i' hi hi' before same j k number number' => ?_
    exact lt_of_numbered before (List.getElem?_eq_getElem hi) (List.getElem?_eq_getElem hi') same number number'

/-- The first run of `a1` finds its name on the label of the second run of `a`, so its numbers begin at 0. -/
example : (recordAll {} [("a", 5), ("a", 5), ("a1", 5), ("a1", 5), ("a", 5)]).labels =
    ["a", "a1", "a10", "a11", "a2"] := by decide

end LoopLowering.Ledger
