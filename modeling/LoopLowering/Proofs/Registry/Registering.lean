/-
  Registration in place.

  `Builder.add` gives a new builder or a refusal, so it has no way to leave a builder half changed.  Here the
  same call is a program that works on one builder and one log, and what it did before it refused would
  stay done.

  1.  PROGRAM.  `register` checks the class, then the required modes one after the other.  Only then it gives
      the first entry of the tag the new map, with a warning, or appends an entry.

  2.  ONE CALL.  The checks look and do not touch, so a refused call leaves all as it was, and any other
      ends in one change (`run_register`).

  3.  REPLACING.  The change is told by the list of entries: one entry gets a map and keeps its class and its
      place, or one is appended (`enter_of_known`, `enter_of_new`).  The program stops at the first
      entry of the tag, and `Builder.put` goes through all of them; where tags are distinct that is the
      same (`enter_eq`).

  4.  ALL CALLS.  A sound builder has distinct tags, well-formed classes and complete maps.  Calls keep it
      sound (`Builder.Sound.attempt`), and on a sound builder the program does what `Builder.add` says
      (`run_register_of_sound`), so it does so after any calls (`register_atomic`).
-/
import LoopLowering.Lowering
import LoopLowering.Proofs.Registry.History

namespace LoopLowering.Registry

/-! ## 1. The program -/

/-- A registry under construction. -/
structure Construction where
  /-- The registrations so far. -/
  builder : Builder := {}
  /-- What was logged so far. -/
  log : List Event := []

/-- Programs that register in place and may refuse.  A refusal undoes nothing. -/
abbrev Registering := ExceptT RegistrationError (StateM Construction)

/-- Refuses a malformed class. -/
def checkClass (family : PlatformClass) : Registering Unit :=
  match family.validate with
  | .ok () => pure ()
  | .error m => throw (.malformedClass m)

/-- Refuses a map that lacks one of the modes. -/
def checkModes (tag : String) (modes : ModeMap) : List String → Registering Unit
  | [] => pure ()
  | mode :: rest => do
    if !modes.contains (.named mode) then throw (.missingMode tag mode)
    checkModes tag modes rest

/-- The entries with the map of the first one of a tag replaced, if there is one. -/
def refile? (tag : String) (modes : ModeMap) : List Entry → Option (List Entry)
  | [] => none
  | e :: rest =>
    if e.family.tag = tag then some ({ e with modes } :: rest)
    else (refile? tag modes rest).map (e :: ·)

/-- Logs a warning. -/
def warn (event : Event) : Registering Unit := modify fun s => { s with log := s.log ++ [event] }

/-- Overwrites the entries. -/
def write (entries : List Entry) : Registering Unit := modify fun s => { s with builder := ⟨entries⟩ }

/-- Files the map of a class, in place of an earlier one, with a warning then. -/
def enter (family : PlatformClass) (modes : ModeMap) : Registering Unit := do
  let s ← get
  match refile? family.tag modes s.builder.entries with
  | some entries =>
    warn (.classReplaced family.tag)
    write entries
  | none => write (s.builder.entries ++ [⟨family, modes⟩])

/-- Registers a class with a map. -/
def register (family : PlatformClass) (modes : ModeMap) : Registering Unit := do
  checkClass family
  checkModes family.tag modes requiredModes
  enter family modes

/-! ## 2. One call -/

/-- A program goes on after a first part that succeeds, from where that part left off. -/
theorem run_seq (first next : Registering Unit) (s : Construction) :
    (do first; next : Registering Unit).run.run s =
      match first.run.run s with
      | (.ok (), s') => next.run.run s'
      | (.error e, s') => (.error e, s') := by
  rw [ExceptT.run_bind, StateT.run_bind]
  rcases first.run.run s with ⟨refused | ⟨⟩, s'⟩ <;> rfl

theorem run_checkClass (family : PlatformClass) (s : Construction) :
    (checkClass family).run.run s = (family.validate.mapError .malformedClass, s) := by
  rw [checkClass]
  cases family.validate <;> rfl

theorem run_checkModes (tag : String) (modes : ModeMap) (required : List String) (s : Construction) :
    (checkModes tag modes required).run.run s =
      (match required.find? fun mode => !modes.contains (.named mode) with
        | some mode => .error (.missingMode tag mode)
        | none => .ok (), s) := by
  induction required with
  | nil => rfl
  | cons mode rest ih =>
    rw [List.find?_cons]
    cases filed : modes.contains (.named mode) with
    | true =>
      rw [checkModes, filed]
      exact ih
    | false =>
      rw [checkModes, filed]
      rfl

/-- What filing makes of a construction. -/
def Construction.enter (s : Construction) (family : PlatformClass) (modes : ModeMap) : Construction :=
  match refile? family.tag modes s.builder.entries with
  | some entries => ⟨⟨entries⟩, s.log ++ [.classReplaced family.tag]⟩
  | none => ⟨⟨s.builder.entries ++ [⟨family, modes⟩]⟩, s.log⟩

theorem run_enter (family : PlatformClass) (modes : ModeMap) (s : Construction) :
    (enter family modes).run.run s = (.ok (), s.enter family modes) := by
  show (match refile? family.tag modes s.builder.entries with
    | some entries => (do warn (.classReplaced family.tag); write entries)
    | none => write (s.builder.entries ++ [⟨family, modes⟩]) : Registering Unit).run.run s = _
  rw [Construction.enter]
  cases refile? family.tag modes s.builder.entries <;> rfl

/-- The first required mode that is missing, one by one. -/
theorem missingMode?_eq (modes : ModeMap) :
    missingMode? modes =
      if modes.contains (.named "noop") = false then some "noop"
      else if modes.contains (.named "advanced") = false then some "advanced"
      else none := by
  rw [missingMode?, requiredModes, List.find?_cons, List.find?_singleton, noop, advanced]
  cases modes.contains (.named "noop") <;> cases modes.contains (.named "advanced") <;> rfl

/-- **A call that is refused touches nothing**, and any other ends in one change. -/
theorem run_register (family : PlatformClass) (modes : ModeMap) (s : Construction) :
    (register family modes).run.run s =
      match refusal? family modes with
      | some e => (.error e, s)
      | none => (.ok (), s.enter family modes) := by
  rw [register, run_seq, run_checkClass, refusal?, PlatformClass.validate]
  cases family.defect? with
  | some defect => rfl
  | none =>
    show (do checkModes _ _ _; enter _ _ : Registering Unit).run.run s = _
    rw [run_seq, run_checkModes, missingMode?]
    cases requiredModes.find? fun mode => !modes.contains (.named mode) with
    | some mode => rfl
    | none => exact run_enter family modes s

/-! ## 3. Replacing in place -/

theorem refile?_eq_none {tag : String} {modes : ModeMap} {entries : List Entry} :
    refile? tag modes entries = none ↔ ∀ e ∈ entries, e.family.tag ≠ tag := by
  induction entries with
  | nil => simp [refile?]
  | cons e rest ih =>
    rw [refile?]
    by_cases same : e.family.tag = tag
    · simp [same]
    · simp [same, ih]

/-- One entry gets the map; its class, its place and all other entries stay. -/
theorem of_refile?_eq_some {tag : String} {modes : ModeMap} {entries filed : List Entry}
    (h : refile? tag modes entries = some filed) :
    ∃ before e after, entries = before ++ e :: after ∧ e.family.tag = tag ∧
      filed = before ++ { e with modes } :: after := by
  induction entries generalizing filed with
  | nil => cases h
  | cons e rest ih =>
    rw [refile?] at h
    by_cases same : e.family.tag = tag
    · rw [if_pos same] at h
      exact ⟨[], e, rest, rfl, same, (Option.some.inj h).symm⟩
    · rw [if_neg same] at h
      obtain ⟨filed', hrest, rfl⟩ := Option.map_eq_some_iff.1 h
      obtain ⟨before, e', after, rfl, htag, rfl⟩ := ih hrest
      exact ⟨e :: before, e', after, rfl, htag, rfl⟩

/-- Where tags are distinct, the first entry of a tag is the only one. -/
theorem refile?_eq_map {tag : String} {modes : ModeMap} {entries filed : List Entry}
    (distinct : (entries.map fun e => e.family.tag).Nodup) (h : refile? tag modes entries = some filed) :
    filed = entries.map fun e => if e.family.tag = tag then { e with modes } else e := by
  induction entries generalizing filed with
  | nil => cases h
  | cons e rest ih =>
    obtain ⟨fresh, distinct⟩ := List.nodup_cons.1 distinct
    rw [refile?] at h
    rw [List.map_cons]
    by_cases same : e.family.tag = tag
    · rw [if_pos same] at h ⊢
      have others : rest.map (fun e => if e.family.tag = tag then { e with modes } else e) = rest.map id := by
        refine List.map_congr_left fun x hx => if_neg fun htag => fresh ?_
        exact List.mem_map.2 ⟨x, hx, htag.trans same.symm⟩
      rw [others, List.map_id]
      exact (Option.some.inj h).symm
    · rw [if_neg same] at h ⊢
      obtain ⟨filed', hrest, rfl⟩ := Option.map_eq_some_iff.1 h
      rw [ih distinct hrest]

theorem knows_eq_false {b : Builder} {tag : String} :
    b.knows tag = false ↔ ∀ e ∈ b.entries, e.family.tag ≠ tag := by
  simp [Builder.knows]

/-- Where tags are distinct, filing in place does what filing in a new builder does, and warns of what it
    replaces. -/
theorem enter_eq {s : Construction} (distinct : (s.builder.entries.map fun e => e.family.tag).Nodup)
    (family : PlatformClass) (modes : ModeMap) :
    s.enter family modes = ⟨s.builder.put family modes,
      s.log ++ if s.builder.knows family.tag then [.classReplaced family.tag] else []⟩ := by
  rw [Construction.enter, Builder.put]
  cases h : refile? family.tag modes s.builder.entries with
  | none =>
    rw [knows_eq_false.2 (refile?_eq_none.1 h)]
    simp
  | some filed =>
    have known : s.builder.knows family.tag = true := by
      rw [← Bool.not_eq_false]
      intro unknown
      rw [refile?_eq_none.2 (knows_eq_false.1 unknown)] at h
      cases h
    rw [known, refile?_eq_map distinct h]
    rfl

/-- A class with a new tag gets an entry at the end. -/
theorem enter_of_new {s : Construction} {family : PlatformClass}
    (new : family.tag ∉ s.builder.entries.map fun e => e.family.tag) (modes : ModeMap) :
    s.enter family modes = ⟨⟨s.builder.entries ++ [⟨family, modes⟩]⟩, s.log⟩ := by
  have none : refile? family.tag modes s.builder.entries = none :=
    refile?_eq_none.2 fun e he htag => new (List.mem_map.2 ⟨e, he, htag⟩)
  rw [Construction.enter, none]

/-- A class with a known tag changes the map of one entry. -/
theorem enter_of_known {s : Construction} {family : PlatformClass}
    (known : family.tag ∈ s.builder.entries.map fun e => e.family.tag) (modes : ModeMap) :
    ∃ before e after, s.builder.entries = before ++ e :: after ∧ e.family.tag = family.tag ∧
      s.enter family modes = ⟨⟨before ++ { e with modes } :: after⟩, s.log ++ [.classReplaced family.tag]⟩ := by
  rw [Construction.enter]
  cases h : refile? family.tag modes s.builder.entries with
  | none =>
    obtain ⟨e, he, htag⟩ := List.mem_map.1 known
    exact absurd htag (refile?_eq_none.1 h e he)
  | some filed =>
    obtain ⟨before, e, after, split, htag, rfl⟩ := of_refile?_eq_some h
    exact ⟨before, e, after, split, htag, rfl⟩

/-! ## 4. All calls -/

/-- What calls keep. -/
structure Builder.Sound (b : Builder) : Prop where
  /-- Classes are told apart by their tags. -/
  distinct : (b.entries.map fun e => e.family.tag).Nodup
  /-- Classes are well-formed. -/
  wellFormed : ∀ e ∈ b.entries, e.family.validate = .ok ()
  /-- Maps have the modes that every class provides. -/
  complete : ∀ e ∈ b.entries, ∀ mode ∈ requiredModes, e.modes.contains (.named mode) = true

theorem accepted_iff_fine {r : Registration} :
    r.Accepted ↔ r.1.validate = .ok () ∧ ∀ mode ∈ requiredModes, r.2.contains (.named mode) = true := by
  rw [Registration.Accepted, refusal?, PlatformClass.validate]
  cases r.1.defect? with
  | some defect => simp
  | none => simp [missingMode?]

theorem Builder.sound_empty : Builder.Sound {} := ⟨.nil, nofun, nofun⟩

/-- An accepted call keeps a builder sound. -/
theorem Builder.Sound.put {b : Builder} (sound : b.Sound) {r : Registration} (accepted : r.Accepted) :
    (b.put r.1 r.2).Sound := by
  obtain ⟨valid, required⟩ := accepted_iff_fine.1 accepted
  unfold Builder.put
  cases known : b.knows r.1.tag with
  | true =>
    rw [if_pos rfl]
    -- An entry may get the map of the call, and is otherwise what it was.
    have kept : ∀ e : Entry, (if e.family.tag = r.1.tag then { e with modes := r.2 } else e).family = e.family :=
      fun e => by split <;> rfl
    refine ⟨?_, ?_, ?_⟩
    · simpa only [List.map_map, Function.comp_def, kept] using sound.distinct
    · intro x hx
      obtain ⟨e, he, rfl⟩ := List.mem_map.1 hx
      rw [kept]
      exact sound.wellFormed e he
    · intro x hx mode hmode
      obtain ⟨e, he, rfl⟩ := List.mem_map.1 hx
      split
      · exact required mode hmode
      · exact sound.complete e he mode hmode
  | false =>
    rw [if_neg Bool.false_ne_true]
    have fresh := knows_eq_false.1 known
    refine ⟨?_, ?_, ?_⟩
    · rw [List.map_append, List.nodup_append]
      refine ⟨sound.distinct, List.nodup_cons.2 ⟨List.not_mem_nil, .nil⟩, ?_⟩
      rintro tag htag _ hnew rfl
      obtain ⟨e, he, rfl⟩ := List.mem_map.1 htag
      exact fresh e he (List.mem_singleton.1 hnew)
    · intro x hx
      rcases List.mem_append.1 hx with hx | hx
      · exact sound.wellFormed x hx
      · rw [List.mem_singleton.1 hx]
        exact valid
    · intro x hx
      rcases List.mem_append.1 hx with hx | hx
      · exact sound.complete x hx
      · rw [List.mem_singleton.1 hx]
        exact required

/-- Any call keeps a builder sound. -/
theorem Builder.Sound.attempt {b : Builder} (sound : b.Sound) (r : Registration) : (b.attempt r).Sound := by
  rw [attempt_eq]
  by_cases accepted : r.Accepted
  · rw [if_pos accepted]
    exact sound.put accepted
  · rw [if_neg accepted]
    exact sound

theorem Builder.Sound.foldl_attempt {b : Builder} (sound : b.Sound) (history : List Registration) :
    (history.foldl Builder.attempt b).Sound := by
  induction history generalizing b with
  | nil => exact sound
  | cons r rest ih => exact ih (sound.attempt r)

/-- The construction after a call. -/
def Construction.attempt (s : Construction) (r : Registration) : Construction := ((register r.1 r.2).run.run s).2

/-- The construction after calls, whether they are refused or not. -/
def Construction.after (history : List Registration) : Construction := history.foldl attempt {}

/-- In place a call has the outcome of `Builder.add`. -/
theorem run_register_of_sound {s : Construction} (sound : s.builder.Sound) (family : PlatformClass)
    (modes : ModeMap) :
    (register family modes).run.run s =
      match s.builder.add family modes with
      | .error e => (.error e, s)
      | .ok (next, again) =>
        (.ok (), ⟨next, s.log ++ if again then [.classReplaced family.tag] else []⟩) := by
  rw [run_register, Builder.add, enter_eq sound.distinct]
  cases refusal? family modes <;> rfl

theorem builder_attempt {s : Construction} (sound : s.builder.Sound) (r : Registration) :
    (s.attempt r).builder = s.builder.attempt r := by
  rw [Construction.attempt, Builder.attempt, run_register_of_sound sound]
  rcases s.builder.add r.1 r.2 with refused | ⟨next, again⟩ <;> rfl

theorem builder_foldl_attempt {s : Construction} (sound : s.builder.Sound) (history : List Registration) :
    (history.foldl Construction.attempt s).builder = history.foldl Builder.attempt s.builder := by
  induction history generalizing s with
  | nil => rfl
  | cons r rest ih =>
    have here := builder_attempt sound r
    rw [List.foldl_cons, List.foldl_cons, ih (here ▸ sound.attempt r), here]

/-- **Registration is all or nothing.**  After any calls tags are distinct, classes are well-formed, and maps
    have the modes that every class provides; and the construction has the builder that the same calls make
    of new builders.  A call is refused exactly for a malformed class or else for the first mode that is
    missing, and then touches nothing.  A call for a new tag appends one entry.  A call for a known one
    replaces the map of the entry of that tag, and is the only kind of call that logs a warning, namely one. -/
theorem register_atomic (history : List Registration) :
    let s := Construction.after history
    let entries := s.builder.entries
    s.builder.Sound ∧ s.builder = history.foldl Builder.attempt {} ∧
    ∀ family modes,
      let run := (register family modes).run.run s
      (run = match s.builder.add family modes with
        | .error e => (.error e, s)
        | .ok (next, again) =>
          (.ok (), ⟨next, s.log ++ if again then [.classReplaced family.tag] else []⟩)) ∧
      match family.validate with
      | .error m => run = (.error (.malformedClass m), s)
      | .ok () =>
        if modes.contains (.named "noop") = false then run = (.error (.missingMode family.tag "noop"), s)
        else if modes.contains (.named "advanced") = false then
          run = (.error (.missingMode family.tag "advanced"), s)
        else if family.tag ∈ entries.map fun e => e.family.tag then
          ∃ before e after, entries = before ++ e :: after ∧ e.family.tag = family.tag ∧
            run = (.ok (), ⟨⟨before ++ { e with modes } :: after⟩, s.log ++ [.classReplaced family.tag]⟩)
        else run = (.ok (), ⟨⟨entries ++ [⟨family, modes⟩]⟩, s.log⟩) := by
  intro s entries
  have calls : s.builder = history.foldl Builder.attempt {} := builder_foldl_attempt Builder.sound_empty history
  have sound : s.builder.Sound := calls ▸ Builder.sound_empty.foldl_attempt history
  refine ⟨sound, calls, fun family modes => ⟨run_register_of_sound sound family modes, ?_⟩⟩
  rw [run_register, refusal?, PlatformClass.validate]
  cases family.defect? with
  | some defect => rfl
  | none =>
    dsimp only
    rw [missingMode?_eq]
    split
    · rfl
    · split
      · rfl
      · split
        · rename_i known
          obtain ⟨before, e, after, split, htag, entered⟩ := enter_of_known known modes
          exact ⟨before, e, after, split, htag, congrArg _ entered⟩
        · rename_i new
          exact congrArg _ (enter_of_new new modes)

/-- A class keeps the lineage under which it was registered first. -/
example :
    let idle : Factory := fun o p => .ok (Target.noop o p)
    let plain := (ModeMap.insert {} (.named noop) idle).insert (.named advanced) idle
    let s := Construction.after [(.cpu64, plain), (⟨"cpu64", ["cpu64", "device", "platform"]⟩, plain)]
    s.builder.entries.map Entry.family = [.cpu64] ∧ s.log = [.classReplaced "cpu64"] := ⟨rfl, rfl⟩

end LoopLowering.Registry
