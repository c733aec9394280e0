/-
  A library as a function of what was filed in it.

  1.  ONE FILING.  A pass is found under its own name from then on, and what is found under other names stays
      (`get?_register`).  A name that is new goes to the end of the names, and a known one keeps its place
      (`names_register`).  Where names are distinct, the first pass of the name is the only one that gives way
      (`register_eq_place`).

  2.  ALL FILINGS.  So the pass that was filed last under a name is found there (`get?_ofList_eq_some_iff`), and
      the names stand in the order in which they were used first (`names_ofList_pairwise`).  They are distinct,
      and therefore no filing ever changes more than one place (`ofList_eq_foldl_place`).

  3.  SEQUENCES.  A sequence of names is looked up place by place, and the first name without a pass ends it
      (`resolve_eq_ok_iff`, `resolve_eq_error_iff`).
-/
import Mathlib.Data.List.Forall2
import Mathlib.Data.List.Induction
import LoopLowering.Proofs.Pass.Sequence

namespace LoopLowering.Pass.Library

/-! ## 1. One filing -/

/-- Passes that give way to one of the same name keep the names of their places. -/
theorem map_name_replace (passes : List Pass) (pass : Pass) :
    (passes.map fun p => if p.name = pass.name then pass else p).map Pass.name = passes.map Pass.name := by
  rw [List.map_map]
  refine List.map_congr_left fun p _ => ?_
  rw [Function.comp]
  split
  · exact (‹p.name = pass.name›).symm
  · rfl

theorem names_register (lib : Library) (pass : Pass) :
    (lib.register pass).names = if pass.name ∈ lib.names then lib.names else lib.names ++ [pass.name] := by
  rw [register]
  by_cases known : pass.name ∈ lib.names
  · rw [if_pos known, if_pos known]
    exact map_name_replace lib.passes pass
  · rw [if_neg known, if_neg known, names, List.map_append]
    rfl

theorem mem_names_register {lib : Library} {pass : Pass} {name : String} :
    name ∈ (lib.register pass).names ↔ name ∈ lib.names ∨ pass.name = name := by
  rw [names_register]
  by_cases known : pass.name ∈ lib.names
  · rw [if_pos known]
    constructor
    · exact Or.inl
    · rintro (old | rfl)
      · exact old
      · exact known
  · rw [if_neg known, List.mem_append, List.mem_singleton, eq_comm (a := name)]

theorem get?_eq_none_iff {lib : Library} {name : String} : lib.get? name = none ↔ name ∉ lib.names := by
  rw [mem_names_iff, ← Option.isSome_iff_exists, Option.not_isSome_iff_eq_none]

/-- **What a filing does to what is found under a name.** -/
theorem get?_register (lib : Library) (pass : Pass) (name : String) :
    (lib.register pass).get? name = if pass.name = name then some pass else lib.get? name := by
  rw [register]
  by_cases known : pass.name ∈ lib.names
  · -- The search ends where it ended before, since the places keep their names.
    have places : ((fun p : Pass => decide (p.name = name)) ∘ fun p => if p.name = pass.name then pass else p) =
        fun p => decide (p.name = name) := by
      funext p
      rw [Function.comp]
      split
      · rw [‹p.name = pass.name›]
      · rfl
    rw [if_pos known, get?, List.find?_map, places]
    show (lib.get? name).map _ = _
    cases found : lib.get? name with
    | none =>
      have other : pass.name ≠ name := fun same => get?_eq_none_iff.1 found (same ▸ known)
      rw [if_neg other]
      rfl
    | some p =>
      have named : p.name = name := by simpa using List.find?_some found
      rw [Option.map_some, named]
      by_cases same : pass.name = name
      · rw [if_pos same.symm, if_pos same]
      · rw [if_neg (Ne.symm same), if_neg same]
  · rw [if_neg known, get?, List.find?_append, List.find?_singleton]
    show (lib.get? name).or _ = _
    by_cases same : pass.name = name
    · rw [get?_eq_none_iff.2 (same ▸ known), if_pos (decide_eq_true same), if_pos same]
      rfl
    · rw [if_neg fun h => same (of_decide_eq_true h), if_neg same, Option.or_none]

/-- Files a pass in the place of the first one of its name or, without such a one, behind all others. -/
def place (lib : Library) (pass : Pass) : Library :=
  match lib.passes.findIdx? fun p => p.name = pass.name with
  | some i => ⟨lib.passes.set i pass⟩
  | none => ⟨lib.passes ++ [pass]⟩

/-- Where names are distinct, the first pass of a name is the only one. -/
theorem map_replace_eq_set {passes : List Pass} {pass : Pass} {i : Nat} (distinct : (passes.map Pass.name).Nodup)
    (first : passes.findIdx? (fun p => p.name = pass.name) = some i) :
    (passes.map fun p => if p.name = pass.name then pass else p) = passes.set i pass := by
  obtain ⟨bound, named, -⟩ := List.findIdx?_eq_some_iff_getElem.1 first
  have named : passes[i].name = pass.name := of_decide_eq_true named
  refine List.ext_getElem (by rw [List.length_map, List.length_set]) fun j hj _ => ?_
  have bound' : j < passes.length := by rwa [List.length_map] at hj
  rw [List.getElem_map, List.getElem_set]
  by_cases here : i = j
  · subst here
    rw [if_pos rfl, if_pos named]
  · have other : passes[j].name ≠ pass.name := by
      intro same
      have names : (passes.map Pass.name)[i]? = (passes.map Pass.name)[j]? := by
        rw [List.getElem?_map, List.getElem?_map, List.getElem?_eq_getElem bound, List.getElem?_eq_getElem bound',
          Option.map_some, Option.map_some, named, same]
      exact here ((List.getElem?_inj (by rwa [List.length_map]) distinct).1 names)
    rw [if_neg here, if_neg other]

/-- **Where names are distinct, filing replaces one pass and no other.** -/
theorem register_eq_place {lib : Library} (distinct : lib.names.Nodup) (pass : Pass) :
    lib.register pass = lib.place pass := by
  rw [register, place]
  cases first : lib.passes.findIdx? fun p => p.name = pass.name with
  | none =>
    have unknown : pass.name ∉ lib.names := by
      intro known
      obtain ⟨p, hp, same⟩ := List.mem_map.1 known
      exact absurd same (by simpa using List.findIdx?_eq_none_iff.1 first p hp)
    rw [if_neg unknown]
  | some i =>
    obtain ⟨bound, named, -⟩ := List.findIdx?_eq_some_iff_getElem.1 first
    have known : pass.name ∈ lib.names :=
      List.mem_map.2 ⟨lib.passes[i], List.getElem_mem bound, of_decide_eq_true named⟩
    rw [if_pos known, map_replace_eq_set distinct first]

/-! ## 2. All filings -/

theorem ofList_concat (history : List Pass) (pass : Pass) :
    ofList (history ++ [pass]) = (ofList history).register pass := by
  rw [ofList, List.foldl_append]
  rfl

/-- Some pass of the history has the name. -/
def Filed (history : List Pass) (name : String) : Prop := ∃ pass ∈ history, pass.name = name

/-- The pass has the name, and none that was filed after it has. -/
def LastFiled (history : List Pass) (name : String) (pass : Pass) : Prop :=
  ∃ earlier later, history = earlier ++ pass :: later ∧ pass.name = name ∧ ∀ q ∈ later, q.name ≠ name

theorem mem_names_ofList {history : List Pass} {name : String} :
    name ∈ (ofList history).names ↔ Filed history name := by
  induction history using List.reverseRecOn with
  | nil => exact ⟨fun h => absurd h List.not_mem_nil, fun ⟨_, h, _⟩ => absurd h List.not_mem_nil⟩
  | append_singleton history pass ih =>
    rw [ofList_concat, mem_names_register, ih, Filed, Filed]
    simp only [List.mem_append, List.mem_singleton, or_and_right, exists_or, exists_eq_left]

/-- **Names stand in the order of their first use.**  A known name keeps its place, and the first use of a new one
    is behind all others. -/
theorem names_ofList_pairwise (history : List Pass) :
    (ofList history).names.Pairwise fun a b =>
      (history.map Pass.name).idxOf a < (history.map Pass.name).idxOf b := by
  induction history using List.reverseRecOn with
  | nil => exact List.Pairwise.nil
  | append_singleton history pass ih =>
    have used : ∀ name ∈ (ofList history).names, name ∈ history.map Pass.name := by
      intro name known
      obtain ⟨p, hp, rfl⟩ := mem_names_ofList.1 known
      exact List.mem_map_of_mem hp
    have kept : ∀ name ∈ (ofList history).names,
        ((history ++ [pass]).map Pass.name).idxOf name = (history.map Pass.name).idxOf name := by
      intro name known
      rw [List.map_append, List.idxOf_append_of_mem (used name known)]
    have before : (ofList history).names.Pairwise fun a b =>
        ((history ++ [pass]).map Pass.name).idxOf a < ((history ++ [pass]).map Pass.name).idxOf b := by
      refine ih.imp_of_mem fun ha hb less => ?_
      rw [kept _ ha, kept _ hb]
      exact less
    rw [ofList_concat, names_register]
    by_cases known : pass.name ∈ (ofList history).names
    · rw [if_pos known]
      exact before
    · have unused : pass.name ∉ history.map Pass.name := fun h => known (by
        obtain ⟨p, hp, same⟩ := List.mem_map.1 h
        exact mem_names_ofList.2 ⟨p, hp, same⟩)
      rw [if_neg known, List.pairwise_append]
      refine ⟨before, List.pairwise_singleton _ _, fun a ha b hb => ?_⟩
      obtain rfl : b = pass.name := List.mem_singleton.1 hb
      rw [kept a ha, List.map_append, List.idxOf_append_of_notMem unused]
      exact Nat.lt_of_lt_of_le (List.idxOf_lt_length_of_mem (used a ha)) (Nat.le_add_right _ _)

theorem nodup_names_ofList (history : List Pass) : (ofList history).names.Nodup :=
  (names_ofList_pairwise history).imp fun less same => absurd (same ▸ less) (Nat.lt_irrefl _)

/-- **A library is made place by place**, whatever is filed in it. -/
theorem ofList_eq_foldl_place (history : List Pass) : ofList history = history.foldl place {} := by
  induction history using List.reverseRecOn with
  | nil => rfl
  | append_singleton history pass ih =>
    rw [ofList_concat, register_eq_place (nodup_names_ofList history), ih, List.foldl_append]
    rfl

/-- Under a name the history is searched from its end. -/
theorem get?_ofList (history : List Pass) (name : String) :
    (ofList history).get? name = history.reverse.find? fun p => p.name = name := by
  induction history using List.reverseRecOn with
  | nil => rfl
  | append_singleton history pass ih =>
    rw [ofList_concat, get?_register, List.reverse_append, List.reverse_singleton, List.singleton_append,
      List.find?_cons, ih]
    by_cases same : pass.name = name
    · rw [if_pos same, decide_eq_true same]
    · rw [if_neg same, decide_eq_false same]

/-- **Under a name stands the pass that was filed last.** -/
theorem get?_ofList_eq_some_iff {history : List Pass} {name : String} {pass : Pass} :
    (ofList history).get? name = some pass ↔ LastFiled history name pass := by
  rw [get?_ofList, List.find?_eq_some_iff_append, decide_eq_true_eq]
  simp only [Bool.not_eq_true', decide_eq_false_iff_not]
  constructor
  · rintro ⟨named, later, earlier, split, others⟩
    refine ⟨earlier.reverse, later.reverse, ?_, named, fun q hq => others q (List.mem_reverse.1 hq)⟩
    rw [← List.reverse_reverse history, split, List.reverse_append, List.reverse_cons, List.append_assoc]
    rfl
  · rintro ⟨earlier, later, rfl, named, others⟩
    refine ⟨named, later.reverse, earlier.reverse, ?_, fun q hq => others q (List.mem_reverse.1 hq)⟩
    rw [List.reverse_append, List.reverse_cons, List.append_assoc]
    rfl

/-! ## 3. Sequences -/

/-- A sequence is looked up place by place. -/
theorem resolve_eq_ok_iff {lib : Library} {platform : Platform} {sequence : List String} {passes : List Pass} :
    lib.resolve platform sequence = .ok passes ↔
      List.Forall₂ (fun name pass => lib.get? name = some pass) sequence passes := by
  induction sequence generalizing passes with
  | nil =>
    rw [resolve, List.forall₂_nil_left_iff]
    exact ⟨fun h => (Except.ok.inj h).symm, fun h => congrArg _ h.symm⟩
  | cons name rest ih =>
    rw [resolve, List.forall₂_cons_left_iff]
    cases found : lib.get? name with
    | none =>
      constructor
      · intro h
        cases h
      · rintro ⟨_, _, other, -⟩
        cases other
    | some pass =>
      cases resolved : lib.resolve platform rest with
      | error e =>
        constructor
        · intro h
          cases h
        · rintro ⟨_, others, -, looked, -⟩
          rw [ih.2 looked] at resolved
          cases resolved
      | ok others =>
        constructor
        · intro h
          exact ⟨pass, others, rfl, ih.1 resolved, (Except.ok.inj h).symm⟩
        · rintro ⟨_, others', same, looked, rfl⟩
          obtain rfl := Option.some.inj same
          obtain rfl := Except.ok.inj (resolved.symm.trans (ih.2 looked))
          rfl

/-- All names of a sequence are known, or there is a first that is not. -/
theorem known_or_unknown (lib : Library) (sequence : List String) :
    (∀ name ∈ sequence, name ∈ lib.names) ∨ ∃ before name after, sequence = before ++ name :: after ∧
      (∀ n ∈ before, n ∈ lib.names) ∧ name ∉ lib.names := by
  cases found : sequence.find? fun x => x ∉ lib.names with
  | none => exact Or.inl (by simpa using found)
  | some name =>
    obtain ⟨unknown, before, after, split, known⟩ := List.find?_eq_some_iff_append.1 found
    exact Or.inr ⟨before, name, after, split, by simpa using known, by simpa using unknown⟩

/-- A sequence is refused for its first name that the library lacks. -/
theorem resolve_eq_error_iff {lib : Library} {platform : Platform} {sequence : List String} {e : UnknownPass} :
    lib.resolve platform sequence = .error e ↔ e.platform = platform.name ∧ ∃ before after,
      sequence = before ++ e.name :: after ∧ (∀ name ∈ before, name ∈ lib.names) ∧ e.name ∉ lib.names := by
  have refused : ∀ {before name after}, sequence = before ++ name :: after → (∀ n ∈ before, n ∈ lib.names) →
      name ∉ lib.names → lib.resolve platform sequence = .error ⟨name, platform.name⟩ := by
    intro before name after split known unknown
    refine resolve_eq_error (List.find?_eq_some_iff_append.2 ?_) platform
    exact ⟨by simpa using unknown, before, after, split, by simpa using known⟩
  constructor
  · intro h
    rcases known_or_unknown lib sequence with known | ⟨before, name, after, split, known, unknown⟩
    · obtain ⟨passes, resolved, -, -⟩ := resolve_eq_ok known platform
      rw [resolved] at h
      cases h
    · rw [refused split known unknown] at h
      obtain rfl := Except.error.inj h
      exact ⟨rfl, before, after, split, known, unknown⟩
  · rintro ⟨hplatform, before, after, split, known, unknown⟩
    rw [refused split known unknown, ← hplatform]

theorem exists_resolve_iff {lib : Library} {platform : Platform} {sequence : List String} :
    (∃ passes, lib.resolve platform sequence = .ok passes) ↔ ∀ name ∈ sequence, name ∈ lib.names := by
  constructor
  · rintro ⟨passes, resolved⟩
    rcases known_or_unknown lib sequence with known | ⟨before, name, after, split, known, unknown⟩
    · exact known
    · have failed : lib.resolve platform sequence = .error ⟨name, platform.name⟩ :=
        resolve_eq_error_iff.2 ⟨rfl, before, after, split, known, unknown⟩
      rw [resolved] at failed
      cases failed
  · intro known
    obtain ⟨passes, resolved, -, -⟩ := resolve_eq_ok known platform
    exact ⟨passes, resolved⟩

/-- **What a library answers, told from its history.**  Its names are distinct, those that were filed, in the
    order of their first use.  Under each stands the pass that was filed last.  A sequence is resolved if all of
    its names were filed, and then each place gets the pass that was filed last under its name, repetitions
    and all; otherwise the error tells the first name that was not filed, and the platform. -/
theorem ofList_answers (history : List Pass) :
    let lib := ofList history
    lib.names.Nodup ∧ (∀ name, name ∈ lib.names ↔ Filed history name) ∧
    (lib.names.Pairwise fun a b => (history.map Pass.name).idxOf a < (history.map Pass.name).idxOf b) ∧
    (∀ name pass, lib.get? name = some pass ↔ LastFiled history name pass) ∧
    (∀ name, lib.get? name = none ↔ ¬ Filed history name) ∧
    ∀ (platform : Platform) (sequence : List String),
      ((∃ passes, lib.resolve platform sequence = .ok passes) ↔ ∀ name ∈ sequence, Filed history name) ∧
      (∀ passes, lib.resolve platform sequence = .ok passes ↔
        List.Forall₂ (LastFiled history) sequence passes) ∧
      (∀ e, lib.resolve platform sequence = .error e ↔ e.platform = platform.name ∧ ∃ before after,
        sequence = before ++ e.name :: after ∧ (∀ name ∈ before, Filed history name) ∧
          ¬ Filed history e.name) := by
  intro lib
  refine ⟨nodup_names_ofList history, fun name => mem_names_ofList, names_ofList_pairwise history,
    fun name pass => get?_ofList_eq_some_iff, fun name => ?_,
    fun platform sequence => ⟨?_, fun passes => ?_, fun e => ?_⟩⟩
  · rw [get?_eq_none_iff, mem_names_ofList]
  · rw [exists_resolve_iff]
    simp only [lib, mem_names_ofList]
  · rw [resolve_eq_ok_iff]
    simp only [lib, get?_ofList_eq_some_iff]
  · rw [resolve_eq_error_iff]
    simp only [lib, mem_names_ofList]

/-- A pass that is filed again keeps the place of its name. -/
example : (ofList [simd, mpi, simd]).names = ["simd", "mpi"] := rfl

end LoopLowering.Pass.Library
