/-
  Merging overrides, told from the overrides alone.

  1.  FITTING.  An override fits if its key takes its value; a key that is not recognized takes any.  There is a
      complaint about an override exactly if it does not fit (`complaint?_eq_none_iff`), and the complaint
      tells the key, what the key takes, and the value (`complaint?_of_not_fits`).

  2.  OUTCOME.  A merge succeeds exactly if all overrides fit (`merge_eq_ok_iff`).  Each option is then what the
      last override of its key says, because each key governs one option (`decided_of_merge`).  Otherwise the
      first override that does not fit is the error (`merge_eq_error_iff`).

  3.  ORDER.  Whether all overrides fit, and which is the last of a key, can be told from the overrides of each
      key by themselves.  So overrides of different keys may change places (`merge_toOption_congr`).
-/
import LoopLowering.Proofs.Settings.Layers

namespace LoopLowering

open Layers (last? last?_filter decided Governs)

/-! ## 1. Fitting -/

namespace Override

/-- The key of an override takes its value: an option that is on or off takes a boolean, and the levels of
    blocking are unset or a number of 32 bits. -/
def Fits (v : Override) : Prop :=
  (v.1 ∈ ["blockinner", "openmp", "mpi"] → ∃ b, v.2 = .bool b) ∧
  (v.1 = "blocklevels" → v.2 = .unset ∨ ∃ i, v.2 = .int i ∧ 0 ≤ i.toInt ∧ i.toInt ≤ 4294967295)

/-- Keys that are not recognized take any value. -/
theorem fits_of_foreign {v : Override} (foreign : v.1 ∉ keys) : v.Fits := by
  have switches_subset : ["blockinner", "openmp", "mpi"] ⊆ keys := by decide
  refine ⟨fun known => absurd (switches_subset known) foreign, fun known => ?_⟩
  rw [known] at foreign
  exact absurd (by decide) foreign

/-- A value that suits a recognized key fits, and no other does. -/
theorem suits_iff {v : Override} (known : v.1 ∈ keys) : suits v.1 v.2 = true ↔ v.Fits := by
  obtain ⟨key, v⟩ := v
  simp only [keys, List.mem_cons, List.not_mem_nil, or_false] at known
  rcases known with rfl | rfl | rfl | rfl
  · cases v <;> simp [suits, switches, Fits]
  · cases v with
    | bool b => simp [suits, switches, Fits]
    | unset => simp [suits, Fits]
    | int i =>
      have range : 0 ≤ i.toInt ∧ i.toInt.toNat < UInt32.size ↔ 0 ≤ i.toInt ∧ i.toInt ≤ 4294967295 := by
        rw [show UInt32.size = 4294967296 from rfl]
        omega
      rw [suits, decide_eq_true rfl, Bool.true_and, decide_eq_true_iff, range]
      constructor
      · have other : "blocklevels" ∉ ["blockinner", "openmp", "mpi"] := by decide
        exact fun inRange => ⟨fun known => absurd known other, fun _ => Or.inr ⟨i, rfl, inRange⟩⟩
      · rintro ⟨-, levels⟩
        rcases levels rfl with unset | ⟨j, same, inRange⟩
        · cases unset
        · cases same
          exact inRange
  · cases v <;> simp [suits, switches, Fits]
  · cases v <;> simp [suits, switches, Fits]

/-- What a recognized key takes. -/
def wanted (key : String) : String :=
  if key = "blocklevels" then "a non-negative integer" else "a boolean"

theorem expected?_of_known {key : String} (known : key ∈ keys) : expected? key = some (wanted key) := by
  simp only [keys, List.mem_cons, List.not_mem_nil, or_false] at known
  rcases known with rfl | rfl | rfl | rfl <;> rfl

theorem expected?_of_foreign {key : String} (foreign : key ∉ keys) : expected? key = none := by
  rw [← Option.isNone_iff_eq_none, expected?_isNone, decide_eq_true foreign]

/-- **A complaint is made exactly about what does not fit.** -/
theorem complaint?_eq_none_iff {v : Override} : complaint? v = none ↔ v.Fits := by
  by_cases known : v.1 ∈ keys
  · rw [← suits_iff known, complaint?, expected?_of_known known, Option.map_some]
    cases suits v.1 v.2 <;> simp
  · exact iff_of_true (complaint?_of_foreign (expected?_of_foreign known)) (fits_of_foreign known)

theorem complaint?_of_not_fits {v : Override} (unfit : ¬ v.Fits) :
    complaint? v = some ⟨v.1, wanted v.1, v.2.display⟩ := by
  have known : v.1 ∈ keys := Decidable.byContradiction fun foreign => unfit (fits_of_foreign foreign)
  rw [complaint?, if_neg (mt (suits_iff known).1 unfit), expected?_of_known known, Option.map_some]

end Override

namespace Options

open Override (Fits complaint? complaint?_eq_none_iff complaint?_of_not_fits keys wanted)

/-! ## 2. Outcome -/

theorem findSome?_complaint?_iff {l : List Override} : l.findSome? complaint? = none ↔ ∀ v ∈ l, Fits v := by
  rw [List.findSome?_eq_none_iff]
  exact forall₂_congr fun v _ => complaint?_eq_none_iff

/-- A merge succeeds exactly if all overrides fit. -/
theorem merge_eq_ok_iff (o : Options) (l : List Override) :
    (∃ o', (o.merge l).result = .ok o') ↔ ∀ v ∈ l, Fits v := by
  rw [← findSome?_complaint?_iff, merge_result]
  cases l.findSome? complaint? with
  | none => exact iff_of_true ⟨_, rfl⟩ rfl
  | some e => exact iff_of_false (fun ⟨_, done⟩ => nomatch done) nofun

/-- The error of a merge is about the first override that does not fit, whatever comes after it. -/
theorem merge_eq_error_iff (o : Options) (l : List Override) (e : InvalidOption) :
    (o.merge l).result = .error e ↔ ∃ before v after, l = before ++ v :: after ∧ (∀ u ∈ before, Fits u) ∧
      ¬ Fits v ∧ e = ⟨v.1, wanted v.1, v.2.display⟩ := by
  rw [merge_result]
  constructor
  · intro fails
    cases found : l.findSome? complaint? with
    | none =>
      rw [found] at fails
      cases fails
    | some e' =>
      rw [found] at fails
      obtain rfl := Except.error.inj fails
      obtain ⟨before, v, after, split, complains, fine⟩ := List.findSome?_eq_some_iff.1 found
      have unfit : ¬ Fits v := by
        rw [← complaint?_eq_none_iff, complains]
        exact nofun
      rw [complaint?_of_not_fits unfit] at complains
      exact ⟨before, v, after, split, fun u hu => complaint?_eq_none_iff.1 (fine u hu), unfit,
        (Option.some.inj complains).symm⟩
  · rintro ⟨before, v, after, rfl, fit, unfit, rfl⟩
    rw [List.findSome?_append, findSome?_complaint?_iff.2 fit, Option.none_or, List.findSome?_cons,
      complaint?_of_not_fits unfit]

/-- **What a merge decides.**  Each option is what the last override of its key says, or else what it was. -/
theorem decided_of_merge {o o' : Options} {l : List Override} (done : (o.merge l).result = .ok o') :
    decided [(last? "blockinner" l).map OptionValue.bool?] o.blockinner = some o'.blockinner ∧
    decided [(last? "blocklevels" l).map OptionValue.levels?] o.blocklevels = some o'.blocklevels ∧
    decided [(last? "openmp" l).map OptionValue.bool?] o.openmp = some o'.openmp ∧
    decided [(last? "mpi" l).map OptionValue.bool?] o.mpi = some o'.mpi := by
  have runs : l.foldlM accept? o = some o' := by
    rw [foldlM_accept?, done]
    rfl
  exact ⟨governs_blockinner.decided runs, governs_blocklevels.decided runs, governs_openmp.decided runs,
    governs_mpi.decided runs⟩

/-! ## 3. Order -/

/-- The overrides of a key, in order. -/
def ofKey (key : String) (l : List Override) : List Override := l.filter fun v => v.1 = key

theorem last?_ofKey (key : String) (l : List Override) : last? key (ofKey key l) = last? key l :=
  last?_filter (fun k => k = key) (decide_eq_true rfl) l

/-- All overrides fit if those of each recognized key do. -/
theorem forall_fits_iff {l : List Override} : (∀ v ∈ l, Fits v) ↔ ∀ key ∈ keys, ∀ v ∈ ofKey key l, Fits v := by
  constructor
  · exact fun fit key _ v hv => fit v (List.mem_filter.1 hv).1
  · intro fit v hv
    by_cases known : v.1 ∈ keys
    · exact fit v.1 known v (List.mem_filter.2 ⟨hv, decide_eq_true rfl⟩)
    · exact Override.fits_of_foreign known

/-- **Overrides of different keys may change places.** -/
theorem merge_toOption_congr {l l' : List Override} (same : ∀ key ∈ keys, ofKey key l' = ofKey key l)
    (o : Options) : (o.merge l').result.toOption = (o.merge l).result.toOption := by
  have fit : (∀ v ∈ l', Fits v) ↔ ∀ v ∈ l, Fits v := by
    rw [forall_fits_iff, forall_fits_iff]
    exact forall₂_congr fun key known => by rw [same key known]
  have last : ∀ key ∈ keys, last? key l' = last? key l := fun key known => by
    rw [← last?_ofKey, same key known, last?_ofKey]
  cases done : (o.merge l).result with
  | error e =>
    cases done' : (o.merge l').result with
    | error e' => rfl
    | ok o' =>
      obtain ⟨_, goes⟩ := (merge_eq_ok_iff o l).2 (fit.1 ((merge_eq_ok_iff o l').1 ⟨o', done'⟩))
      cases done.symm.trans goes
  | ok o₁ =>
    obtain ⟨o₂, done'⟩ := (merge_eq_ok_iff o l').2 (fit.2 ((merge_eq_ok_iff o l).1 ⟨o₁, done⟩))
    obtain ⟨inner, levels, openmp, mpi⟩ := decided_of_merge done
    obtain ⟨inner', levels', openmp', mpi'⟩ := decided_of_merge done'
    rw [last _ (by decide)] at inner' levels' openmp' mpi'
    have equal : o₂ = o₁ := by
      cases o₁; cases o₂
      rw [Options.mk.injEq]
      exact ⟨Option.some.inj (inner'.symm.trans inner), Option.some.inj (levels'.symm.trans levels),
        Option.some.inj (openmp'.symm.trans openmp), Option.some.inj (mpi'.symm.trans mpi)⟩
    rw [done', equal]

/-- **How overrides are merged.**  A merge succeeds exactly if every override fits.  Each option is then what the
    last override of its key says, or else the default, and the keys dropped are those not recognized, in
    order.  A merge that fails names the first override that does not fit.  Overrides that keep their order
    for each recognized key lead to the same options, or all fail. -/
theorem merge_outcome (o : Options) (l : List Override) :
    ((∃ o', (o.merge l).result = .ok o') ↔ ∀ v ∈ l, Fits v) ∧
    (∀ o', (o.merge l).result = .ok o' →
      decided [(last? "blockinner" l).map OptionValue.bool?] o.blockinner = some o'.blockinner ∧
      decided [(last? "blocklevels" l).map OptionValue.levels?] o.blocklevels = some o'.blocklevels ∧
      decided [(last? "openmp" l).map OptionValue.bool?] o.openmp = some o'.openmp ∧
      decided [(last? "mpi" l).map OptionValue.bool?] o.mpi = some o'.mpi ∧
      (o.merge l).ignored = (l.map Prod.fst).filter fun key => decide (key ∉ keys)) ∧
    (∀ e, (o.merge l).result = .error e ↔ ∃ before v after, l = before ++ v :: after ∧ (∀ u ∈ before, Fits u) ∧
      ¬ Fits v ∧ e = ⟨v.1, wanted v.1, v.2.display⟩) ∧
    (∀ l', (∀ key ∈ keys, ofKey key l' = ofKey key l) →
      (o.merge l').result.toOption = (o.merge l).result.toOption) := by
  refine ⟨merge_eq_ok_iff o l, fun o' done => ?_, merge_eq_error_iff o l,
    fun l' same => merge_toOption_congr same o⟩
  obtain ⟨inner, levels, openmp, mpi⟩ := decided_of_merge done
  have fine := findSome?_complaint?_iff.2 ((merge_eq_ok_iff o l).1 ⟨o', done⟩)
  refine ⟨inner, levels, openmp, mpi, ?_⟩
  rw [merge_ignored_of_fine o fine]
  exact List.filter_congr fun key _ => Override.expected?_isNone key

end Options

end LoopLowering
