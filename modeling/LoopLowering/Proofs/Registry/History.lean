/-
  The registry as a function of its history.

  A HISTORY is a list of calls that register a class with a map, some of which are refused.  What a
  registry answers can be read off the history without running it:

  1.  ONE CALL.  A call is accepted or refused on its own account (`accepted_iff`); a refused one changes
      nothing, and an accepted one files its map under its tag, whatever was filed there (`filed?_attempt`).

  2.  ALL CALLS.  So under a tag is filed the map of the last accepted call for it (`find?_ofHistory`), and
      the map that governs a platform is the one of the first tag of its lineage that has any
      (`modes_govern?`).

  3.  ANSWERS.  Only the accepted calls for the tags of a lineage matter, and of the order of calls only
      that among calls for one tag (`governing?_congr`).  Tags without accepted calls can be left out of a
      lineage (`governing?_append`).
-/
import LoopLowering.Registry
import LoopLowering.Platform.Catalogue

namespace LoopLowering.Registry

/-! ## 1. One call -/

/-- A call that registers a class with a map. -/
abbrev Registration := PlatformClass × ModeMap

/-- Nothing is wrong with the class or the map. -/
def Registration.Accepted (r : Registration) : Prop := refusal? r.1 r.2 = none

instance (r : Registration) : Decidable r.Accepted := inferInstanceAs (Decidable (_ = _))

/-- A call succeeds or not whatever was registered before. -/
theorem accepted_iff (b : Builder) (r : Registration) :
    r.Accepted ↔ ∃ next, b.add r.1 r.2 = .ok next := by
  rw [Registration.Accepted, Builder.add]
  cases refusal? r.1 r.2 with
  | none => simp
  | some e => simp

/-- The builder after a call, which a refused call leaves as it was. -/
def Builder.attempt (b : Builder) (r : Registration) : Builder :=
  match b.add r.1 r.2 with
  | .ok (next, _) => next
  | .error _ => b

theorem attempt_eq (b : Builder) (r : Registration) :
    b.attempt r = if r.Accepted then b.put r.1 r.2 else b := by
  rw [Builder.attempt, Builder.add]
  cases h : refusal? r.1 r.2 with
  | none => exact (if_pos h).symm
  | some e =>
    have refused : ¬ r.Accepted := fun accepted => by
      rw [Registration.Accepted, h] at accepted
      cases accepted
    exact (if_neg refused).symm

/-- The map filed under a tag. -/
def Builder.filed? (b : Builder) (tag : String) : Option ModeMap := (b.toRegistry.find? tag).map Entry.modes

/-- Entries that may get a new map keep their tags, so a search for a tag ends where it ended before. -/
theorem find?_map_refile (entries : List Entry) (filing : String) (modes : ModeMap) (tag : String) :
    (entries.map fun e => if e.family.tag = filing then { e with modes } else e).find?
        (fun e => decide (e.family.tag = tag)) =
      (entries.find? fun e => decide (e.family.tag = tag)).map
        fun e => if e.family.tag = filing then { e with modes } else e := by
  have tags : ((fun e : Entry => decide (e.family.tag = tag)) ∘
      fun e => if e.family.tag = filing then { e with modes } else e) =
      fun e => decide (e.family.tag = tag) := by
    funext e
    simp only [Function.comp]
    split <;> rfl
  rw [List.find?_map, tags]

/-- Filing a map puts it under the tag of its class and changes nothing else. -/
theorem filed?_put (b : Builder) (family : PlatformClass) (modes : ModeMap) (tag : String) :
    (b.put family modes).filed? tag = if family.tag = tag then some modes else b.filed? tag := by
  unfold Builder.filed? Builder.put Builder.knows
  cases known : b.entries.any fun e => e.family.tag = family.tag with
  | true =>
    rw [if_pos rfl]
    show Option.map _ (List.find? _ (List.map _ _)) = _
    rw [find?_map_refile]
    show _ = if _ then _ else Option.map Entry.modes (b.entries.find? fun e => decide (e.family.tag = tag))
    cases found : b.entries.find? fun e => decide (e.family.tag = tag) with
    | none =>
      have other : family.tag ≠ tag := by
        rintro same
        obtain ⟨e, he, htag⟩ := List.any_eq_true.1 known
        exact List.find?_eq_none.1 found e he (same ▸ htag)
      rw [if_neg other]
      rfl
    | some f =>
      have ftag : f.family.tag = tag := by simpa using List.find?_some found
      rw [Option.map_some, Option.map_some, Option.map_some, ftag]
      by_cases same : family.tag = tag
      · rw [if_pos same.symm, if_pos same]
      · rw [if_neg (Ne.symm same), if_neg same]
  | false =>
    rw [if_neg Bool.false_ne_true]
    show Option.map _ (List.find? _ (b.entries ++ [⟨family, modes⟩])) = _
    rw [List.find?_append, List.find?_singleton]
    by_cases same : family.tag = tag
    · have none : b.entries.find? (fun e => decide (e.family.tag = tag)) = none := by
        rw [List.find?_eq_none, ← same]
        exact fun e he h => Bool.false_ne_true (known ▸ List.any_eq_true.2 ⟨e, he, h⟩)
      rw [none, if_pos (decide_eq_true same), if_pos same]
      rfl
    · rw [if_neg fun h => same (of_decide_eq_true h), if_neg same, Option.or_none]
      rfl

/-- **What a call does to what is filed under a tag.** -/
theorem filed?_attempt (b : Builder) (r : Registration) (tag : String) :
    (b.attempt r).filed? tag = if r.Accepted ∧ r.1.tag = tag then some r.2 else b.filed? tag := by
  rw [attempt_eq]
  by_cases accepted : r.Accepted
  · rw [if_pos accepted, filed?_put]
    simp only [accepted, true_and]
  · rw [if_neg accepted, if_neg fun h => accepted h.1]

/-! ## 2. All calls -/

/-- The registry that a history of calls leaves. -/
def ofHistory (history : List Registration) : Registry :=
  (history.foldl Builder.attempt {}).toRegistry

/-- The accepted calls for a tag, in order. -/
def successes (history : List Registration) (tag : String) : List Registration :=
  history.filter fun r => r.Accepted ∧ r.1.tag = tag

/-- The map of the last accepted call for a tag. -/
def last? (history : List Registration) (tag : String) : Option ModeMap :=
  (successes history tag).getLast?.map Prod.snd

theorem filed?_foldl_attempt (b : Builder) (history : List Registration) (tag : String) :
    (history.foldl Builder.attempt b).filed? tag = (last? history tag).or (b.filed? tag) := by
  induction history generalizing b with
  | nil => rfl
  | cons r rest ih =>
    rw [List.foldl_cons, ih, filed?_attempt, last?, last?, successes, successes, List.filter_cons]
    by_cases h : r.Accepted ∧ r.1.tag = tag
    · rw [if_pos h, if_pos (decide_eq_true h), List.getLast?_cons]
      cases (rest.filter fun r => r.Accepted ∧ r.1.tag = tag).getLast? <;> rfl
    · rw [if_neg h, if_neg fun hd => h (of_decide_eq_true hd)]

/-- **Under a tag stands the map of the last accepted call for it.** -/
theorem find?_ofHistory (history : List Registration) (tag : String) :
    ((ofHistory history).find? tag).map Entry.modes = last? history tag := by
  have filed := filed?_foldl_attempt {} history tag
  rwa [show Builder.filed? {} tag = none from rfl, Option.or_none] at filed

/-- The map of the first tag of a lineage that has an accepted call. -/
def governing? (history : List Registration) (lineage : List String) : Option ModeMap :=
  lineage.findSome? (last? history)

/-- The map that governs a platform. -/
theorem modes_govern? (history : List Registration) (p : Platform) :
    ((ofHistory history).govern? p).map Entry.modes = governing? history p.family.lineage := by
  rw [govern?, governing?]
  generalize p.family.lineage = lineage
  induction lineage with
  | nil => rfl
  | cons tag rest ih =>
    have filed := find?_ofHistory history tag
    rw [List.findSome?_cons, List.findSome?_cons, ← filed]
    cases (ofHistory history).find? tag with
    | none => exact ih
    | some e => rfl

/-! ## 3. Answers -/

/-- The search for a map finds the first tag with accepted calls, and then takes the last of them. -/
theorem governing?_eq (history : List Registration) (lineage : List String) :
    governing? history lineage =
      (lineage.find? fun tag => !(successes history tag).isEmpty).bind (last? history) := by
  induction lineage with
  | nil => rfl
  | cons tag rest ih =>
    rw [governing?, List.findSome?_cons, List.find?_cons]
    cases h : successes history tag with
    | nil =>
      rw [last?, h]
      exact ih
    | cons call calls =>
      rw [last?, h, List.getLast?_cons, Option.map_some, List.isEmpty_cons, Bool.not_false,
        Option.bind_some, last?, h, List.getLast?_cons, Option.map_some]

/-- A tag with accepted calls has a last one. -/
theorem governing?_of_find? {history : List Registration} {lineage : List String} {tag : String}
    (found : (lineage.find? fun tag => !(successes history tag).isEmpty) = some tag) :
    ∃ last, (successes history tag).getLast? = some last ∧ governing? history lineage = some last.2 := by
  have registered : (!(successes history tag).isEmpty) = true := by simpa using List.find?_some found
  obtain ⟨last, hlast⟩ : ∃ last, (successes history tag).getLast? = some last := by
    rw [← Option.isSome_iff_exists, List.getLast?_isSome]
    exact fun none => by simp [none] at registered
  refine ⟨last, hlast, ?_⟩
  rw [governing?_eq, found, Option.bind_some, last?, hlast, Option.map_some]

/-- Histories with the same accepted calls for each tag of a lineage have the same map for it. -/
theorem governing?_congr {history other : List Registration} {lineage : List String}
    (same : ∀ tag ∈ lineage, successes other tag = successes history tag) :
    governing? other lineage = governing? history lineage := by
  induction lineage with
  | nil => rfl
  | cons tag rest ih =>
    have here : last? other tag = last? history tag := by
      rw [last?, last?, same tag List.mem_cons_self]
    have below : governing? other rest = governing? history rest :=
      ih fun t ht => same t (List.mem_cons_of_mem tag ht)
    rw [governing?, governing?, List.findSome?_cons, List.findSome?_cons, here]
    cases last? history tag with
    | none => exact below
    | some modes => rfl

/-- Calls for different tags may change places. -/
theorem successes_swap (earlier later : List Registration) {a b : Registration} (apart : a.1.tag ≠ b.1.tag)
    (tag : String) :
    successes (earlier ++ a :: b :: later) tag = successes (earlier ++ b :: a :: later) tag := by
  by_cases ha : a.Accepted ∧ a.1.tag = tag
  · have hb : ¬ (b.Accepted ∧ b.1.tag = tag) := fun hb => apart (ha.2.trans hb.2.symm)
    simp [successes, ha, hb]
  · simp [successes, List.filter_cons, ha]

/-- Tags without accepted calls can be left out of a lineage. -/
theorem governing?_append {history : List Registration} {tags : List String}
    (unregistered : ∀ tag ∈ tags, successes history tag = []) (lineage : List String) :
    governing? history (tags ++ lineage) = governing? history lineage := by
  have nothing : tags.findSome? (last? history) = none := by
    rw [List.findSome?_eq_none_iff]
    intro tag ht
    rw [last?, unregistered tag ht]
    rfl
  rw [governing?, List.findSome?_append, nothing]
  rfl

theorem lineage_foldr_derive (tags : List String) (parent : PlatformClass) :
    (tags.foldr .derive parent).lineage = tags ++ parent.lineage := by
  induction tags with
  | nil => rfl
  | cons tag rest ih =>
    rw [List.foldr_cons, PlatformClass.derive, ih]
    rfl

theorem fetch_ofHistory (history : List Registration) (p : Platform) (key : ModeKey) :
    (ofHistory history).fetch p key =
      match (governing? history p.family.lineage).bind fun modes => modes.get? key with
      | some factory => .ok factory
      | none => .error (.targetNotFound key.display p.name) := by
  rw [fetch, factory?, ← modes_govern?, Option.bind_map]
  rfl

theorem fetchCustom_ofHistory (history : List Registration) (p : Platform) :
    (ofHistory history).fetchCustom p =
      match (governing? history p.family.lineage).bind ModeMap.custom with
      | some factory => .ok factory
      | none => .error (.targetNotFound customWord p.name) := by
  rw [fetchCustom, customFactory?, ← modes_govern?, Option.bind_map]
  rfl

/-- Two registries give a platform the same answers. -/
def Alike (a b : Registry) (p : Platform) : Prop :=
  (∀ key, a.fetch p key = b.fetch p key) ∧ a.fetchCustom p = b.fetchCustom p

theorem alike_of_governing? {history other : List Registration} {p : Platform}
    (same : governing? other p.family.lineage = governing? history p.family.lineage) :
    Alike (ofHistory other) (ofHistory history) p := by
  refine ⟨fun key => ?_, ?_⟩
  · rw [fetch_ofHistory, fetch_ofHistory, same]
  · rw [fetchCustom_ofHistory, fetchCustom_ofHistory, same]

/-- **What a registry answers, told from its history.**  A call succeeds or not on its own account.  A
    platform is governed by the first tag of its lineage for which a call succeeded, and there by the map of
    the last call that did: what that map lacks is not found, whatever other maps have.

    So a call that is refused, or whose tag is not on the lineage, might as well not have been made; calls
    may change places as long as those that succeed for one tag keep their order; and classes derived
    below the class of a platform leave its answers alone as long as none of them is registered. -/
theorem answers_ofHistory (history : List Registration) (p : Platform) :
    let r := ofHistory history
    (∀ b call, Registration.Accepted call ↔ ∃ next, Builder.add b call.1 call.2 = .ok next) ∧
    (match p.family.lineage.find? fun tag => !(successes history tag).isEmpty with
      | none =>
        (∀ key, r.fetch p key = .error (.targetNotFound key.display p.name)) ∧
        r.fetchCustom p = .error (.targetNotFound "custom" p.name)
      | some tag => ∃ last, (successes history tag).getLast? = some last ∧
        (∀ key, r.fetch p key = match last.2.get? key with
          | some factory => .ok factory
          | none => .error (.targetNotFound key.display p.name)) ∧
        r.fetchCustom p = match last.2.custom with
          | some factory => .ok factory
          | none => .error (.targetNotFound "custom" p.name)) ∧
    (∀ earlier call later, history = earlier ++ call :: later →
      ¬ call.Accepted ∨ call.1.tag ∉ p.family.lineage → Alike (ofHistory (earlier ++ later)) r p) ∧
    (∀ other, (∀ tag, successes other tag = successes history tag) → Alike (ofHistory other) r p) ∧
    (∀ (q : Platform) (tags : List String), p.family = tags.foldr .derive q.family →
      (∀ tag ∈ tags, successes history tag = []) →
      (∀ key, (r.fetch p key).toOption = (r.fetch q key).toOption) ∧
      (r.fetchCustom p).toOption = (r.fetchCustom q).toOption) := by
  intro r
  refine ⟨fun b call => accepted_iff b call, ?_, ?_, ?_, ?_⟩
  · cases found : p.family.lineage.find? fun tag => !(successes history tag).isEmpty with
    | none =>
      have ungoverned : governing? history p.family.lineage = none := by
        rw [governing?_eq, found, Option.bind_none]
      refine ⟨fun key => ?_, ?_⟩
      · rw [fetch_ofHistory, ungoverned]
        rfl
      · rw [fetchCustom_ofHistory, ungoverned]
        rfl
    | some tag =>
      obtain ⟨last, hlast, governed⟩ := governing?_of_find? found
      refine ⟨last, hlast, fun key => ?_, ?_⟩
      · rw [fetch_ofHistory, governed, Option.bind_some]
      · rw [fetchCustom_ofHistory, governed, Option.bind_some]
        rfl
  · rintro earlier call later rfl idle
    refine alike_of_governing? (governing?_congr fun tag ht => ?_)
    have dropped : decide (call.Accepted ∧ call.1.tag = tag) = false := by
      refine decide_eq_false fun h => ?_
      rcases idle with refused | foreign
      · exact refused h.1
      · exact foreign (h.2 ▸ ht)
    rw [successes, successes, List.filter_append, List.filter_append, List.filter_cons, dropped]
    rfl
  · intro other same
    exact alike_of_governing? (governing?_congr fun tag _ => same tag)
  · intro q tags derived unregistered
    have same : governing? history p.family.lineage = governing? history q.family.lineage := by
      rw [derived, lineage_foldr_derive, governing?_append unregistered]
    refine ⟨fun key => ?_, ?_⟩
    · rw [fetch_ofHistory, fetch_ofHistory, same]
      split <;> rfl
    · rw [fetchCustom_ofHistory, fetchCustom_ofHistory, same]
      split <;> rfl

/-- A class is registered, refused without the mode `advanced`, and registered again, and another class
    comes in between.  A platform two classes below it is served by the second map, which has no factory for
    explicit sequences although the first had one; neither the refused call nor the other class matters. -/
theorem answers_ofHistory_again :
    let idle : Factory := fun o p => .ok (Target.noop o p)
    let refused : ModeMap := ModeMap.insert {} (.named noop) idle
    let plain := refused.insert (.named advanced) idle
    let first := plain.setCustom fun _ => idle
    let second := plain.insert (.parallel ⟨true, false⟩) idle
    let history : List Registration :=
      [(.cpu64, first), (.cpu64, refused), (.nvidia, first), (.cpu64, second)]
    let spr : Platform := { Platform.skx with
      name := "spr"
      family := .derive "intel64-spr" (.derive "intel64" .cpu64) }
    let r := ofHistory history
    r.fetch spr (.parallel ⟨true, false⟩) = .ok idle ∧
    r.fetchCustom spr = .error (.targetNotFound "custom" "spr") ∧
    Alike (ofHistory [(.cpu64, first), (.nvidia, first), (.cpu64, second)]) r spr ∧
    Alike (ofHistory [(.cpu64, first), (.nvidia, first), (.cpu64, refused), (.cpu64, second)]) r spr ∧
    (r.fetch spr (.named noop)).toOption = (r.fetch .cpu64 (.named noop)).toOption := by
  intro idle refused plain first second history spr r
  obtain ⟨-, answers, dropped, moved, derived⟩ := answers_ofHistory history spr
  have governed : (spr.family.lineage.find? fun tag => !(successes history tag).isEmpty) = some "cpu64" := rfl
  rw [governed] at answers
  obtain ⟨last, hlast, fetches, custom⟩ := answers
  obtain rfl : (PlatformClass.cpu64, second) = last := Option.some.inj hlast
  have unregistered : ∀ tag ∈ ["intel64-spr", "intel64"], successes history tag = [] := by
    intro tag ht
    simp only [List.mem_cons, List.not_mem_nil, or_false] at ht
    rcases ht with rfl | rfl <;> rfl
  have order : ∀ tag, successes [(.cpu64, first), (.nvidia, first), (.cpu64, refused), (.cpu64, second)] tag =
      successes history tag := successes_swap [(.cpu64, first)] [(.cpu64, second)] (by decide)
  refine ⟨fetches _, custom, ?_, moved _ order, (derived .cpu64 _ rfl unregistered).1 _⟩
  exact dropped [(.cpu64, first)] (.cpu64, refused) _ rfl (Or.inl (by decide))

end LoopLowering.Registry
