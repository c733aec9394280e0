/-
  Cutting a text at every occurrence of a separator, and joining it again.

  `pieces sep cs` always has one piece more than `cs` has separators: the empty text has one empty
  piece, and two separators in a row have an empty piece between them.  The laws of this module are
  `pieces_joinChars`, joining pieces that hold no separator and cutting again gives the pieces back, and
  `joinChars_pieces`, cutting a text and joining the pieces gives the text back.
-/
import LoopLowering.Text.Blank

namespace LoopLowering.Text

/-- The maximal parts of a text that are free of `sep`, in order. -/
def pieces (sep : Char) : List Char → List (List Char)
  | [] => [[]]
  | c :: rest =>
    if c = sep then [] :: pieces sep rest
    else
      match pieces sep rest with
      | [] => [[c]]
      | first :: others => (c :: first) :: others

/-- The parts with `sep` between neighbours. -/
def joinChars (sep : Char) : List (List Char) → List Char
  | [] => []
  | [part] => part
  | part :: next :: others => part ++ sep :: joinChars sep (next :: others)

theorem pieces_ne_nil (sep : Char) (cs : List Char) : pieces sep cs ≠ [] := by
  cases cs with
  | nil => simp [pieces]
  | cons c rest =>
    unfold pieces
    split
    · simp
    · split <;> simp

theorem pieces_append_sep {sep : Char} {part : List Char} (h : sep ∉ part) (rest : List Char) :
    pieces sep (part ++ sep :: rest) = part :: pieces sep rest := by
  induction part with
  | nil => simp [pieces]
  | cons c part ih =>
    have hc : c ≠ sep := fun e => h (by simp [e])
    simp [pieces, hc, ih (fun hm => h (List.mem_cons_of_mem _ hm))]

theorem pieces_eq_singleton {sep : Char} {part : List Char} (h : sep ∉ part) :
    pieces sep part = [part] := by
  induction part with
  | nil => rfl
  | cons c part ih =>
    have hc : c ≠ sep := fun e => h (by simp [e])
    simp [pieces, hc, ih (fun hm => h (List.mem_cons_of_mem _ hm))]

/-- Cutting undoes joining, for at least one part and parts without the separator. -/
theorem pieces_joinChars {sep : Char} {part : List Char} {others : List (List Char)}
    (h : ∀ p ∈ part :: others, sep ∉ p) :
    pieces sep (joinChars sep (part :: others)) = part :: others := by
  induction others generalizing part with
  | nil => exact pieces_eq_singleton (h part (by simp))
  | cons next others ih =>
    rw [joinChars, pieces_append_sep (h part (by simp)),
      ih fun p hp => h p (List.mem_cons_of_mem _ hp)]

/-- Joining undoes cutting. -/
theorem joinChars_pieces (sep : Char) (cs : List Char) : joinChars sep (pieces sep cs) = cs := by
  induction cs with
  | nil => rfl
  | cons c rest ih =>
    obtain ⟨first, others, split⟩ := List.exists_cons_of_ne_nil (pieces_ne_nil sep rest)
    rw [split] at ih
    rw [pieces, split]
    by_cases h : c = sep
    · rw [if_pos h, joinChars, ih, List.nil_append, h]
    · rw [if_neg h]
      cases others with
      | nil => exact congrArg (c :: ·) ih
      | cons next others => exact congrArg (c :: ·) ih

theorem not_mem_of_mem_pieces {sep : Char} {cs part : List Char} (h : part ∈ pieces sep cs) : sep ∉ part := by
  induction cs generalizing part with
  | nil =>
    rw [List.mem_singleton.1 h]
    exact List.not_mem_nil
  | cons c rest ih =>
    obtain ⟨first, others, split⟩ := List.exists_cons_of_ne_nil (pieces_ne_nil sep rest)
    rw [split] at ih
    rw [pieces, split] at h
    by_cases hc : c = sep
    · rw [if_pos hc] at h
      rcases List.mem_cons.1 h with rfl | h
      · exact List.not_mem_nil
      · exact ih h
    · rw [if_neg hc] at h
      rcases List.mem_cons.1 h with rfl | h
      · exact List.not_mem_cons_of_ne_of_not_mem (Ne.symm hc) (ih List.mem_cons_self)
      · exact ih (List.mem_cons_of_mem _ h)

/-! ## Lists with commas -/

/-- The names of a comma-separated list: each piece trimmed, the empty ones dropped. -/
def commaList (s : String) : List String :=
  ((pieces ',' s.toList).map trimChars).filter (fun cs => !cs.isEmpty) |>.map String.ofList

theorem toList_intercalate_comma (names : List String) :
    (",".intercalate names).toList = joinChars ',' (names.map String.toList) := by
  induction names with
  | nil => rfl
  | cons name rest ih =>
    cases rest with
    | nil =>
      rw [String.intercalate_singleton]
      rfl
    | cons next others =>
      rw [String.intercalate_cons_cons, String.toList_append, String.toList_append, ih, List.append_assoc]
      rfl

/-- Names that are joined with commas are read back: none may be empty, hold a comma or begin or end with a
    blank. -/
theorem commaList_intercalate {names : List String}
    (sound : ∀ name ∈ names, name ≠ "" ∧ ',' ∉ name.toList ∧ Trimmed name.toList) :
    commaList (",".intercalate names) = names := by
  cases names with
  | nil => rfl
  | cons name rest =>
    have apart : ∀ part ∈ name.toList :: rest.map String.toList, ',' ∉ part := by
      intro part hpart
      rw [← List.map_cons] at hpart
      obtain ⟨n, hn, rfl⟩ := List.mem_map.1 hpart
      exact (sound n hn).2.1
    have cut : pieces ',' (",".intercalate (name :: rest)).toList = (name :: rest).map String.toList := by
      rw [toList_intercalate_comma, List.map_cons, pieces_joinChars apart]
    have trimmed : ((name :: rest).map String.toList).map trimChars = (name :: rest).map String.toList := by
      rw [List.map_map]
      exact List.map_congr_left fun n hn => trimChars_eq_self (sound n hn).2.2
    have visible : ((name :: rest).map String.toList).filter (fun cs => !cs.isEmpty) =
        (name :: rest).map String.toList := by
      refine List.filter_eq_self.2 fun cs hcs => ?_
      obtain ⟨n, hn, rfl⟩ := List.mem_map.1 hcs
      simpa using (sound n hn).1
    have back : (name :: rest).map (String.ofList ∘ String.toList) = (name :: rest).map id :=
      List.map_congr_left fun n _ => String.ofList_toList
    rw [commaList, cut, trimmed, visible, List.map_map, back, List.map_id]

/-! ## Cutting once -/

/-- The text before the first `sep` and the text behind it, if there is one. -/
def cutAt (sep : Char) : List Char → Option (List Char × List Char)
  | [] => none
  | c :: rest => if c = sep then some ([], rest) else (cutAt sep rest).map fun (a, b) => (c :: a, b)

theorem cutAt_append {sep : Char} {front : List Char} (h : sep ∉ front) (rest : List Char) :
    cutAt sep (front ++ sep :: rest) = some (front, rest) := by
  induction front with
  | nil => simp [cutAt]
  | cons c front ih =>
    have hc : c ≠ sep := fun e => h (by simp [e])
    simp [cutAt, hc, ih (fun hm => h (List.mem_cons_of_mem _ hm))]

theorem cutAt_eq_none_iff {sep : Char} {cs : List Char} : cutAt sep cs = none ↔ sep ∉ cs := by
  induction cs with
  | nil => exact iff_of_true rfl List.not_mem_nil
  | cons c rest ih =>
    rw [cutAt, List.mem_cons, not_or]
    by_cases hc : c = sep
    · rw [if_pos hc]
      exact iff_of_false nofun fun h => h.1 hc.symm
    · rw [if_neg hc, Option.map_eq_none_iff, ih]
      exact (and_iff_right (Ne.symm hc)).symm

/-- The cut is made at the first separator, and nothing is lost but this one. -/
theorem cutAt_eq_some_iff {sep : Char} {cs front rest : List Char} :
    cutAt sep cs = some (front, rest) ↔ cs = front ++ sep :: rest ∧ sep ∉ front := by
  constructor
  · intro h
    induction cs generalizing front with
    | nil => nomatch h
    | cons c cs ih =>
      rw [cutAt] at h
      by_cases hc : c = sep
      · rw [if_pos hc, Option.some_inj, Prod.mk.injEq] at h
        obtain ⟨rfl, rfl⟩ := h
        exact ⟨congrArg (· :: cs) hc, List.not_mem_nil⟩
      · rw [if_neg hc, Option.map_eq_some_iff] at h
        obtain ⟨⟨before, behind⟩, cut, e⟩ := h
        obtain ⟨rfl, rfl⟩ := Prod.mk.inj e
        obtain ⟨rfl, free⟩ := ih cut
        exact ⟨rfl, List.not_mem_cons_of_ne_of_not_mem (Ne.symm hc) free⟩
  · rintro ⟨rfl, free⟩
    exact cutAt_append free rest

end LoopLowering.Text
