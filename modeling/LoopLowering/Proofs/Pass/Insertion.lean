/-
  Annotations inserted in whatever way.

  1.  ADDING.  `Adds added root after` says that the second tree is the first one with annotations added, by
      address.  Two additions are one (`Adds.trans`), and what is added, apart from what was there before, decides
      what becomes of a tree and is told from it (`Adds.eq_iff`): a node holds a set.

  2.  WAYS.  A builder inserts one annotation into one node, a pass inserts what it gives where it suits, and a text
      inserts what it lists (`Insertion`).  Each adds just that (`Insertion.adds`), so a series of insertions adds
      what all of them insert (`Insertions.adds`).

  3.  So the order of insertions, their repetition and the ways of inserting leave no trace in a tree and its texts,
      which list for each node its set in order (`insertions_canonical`).
-/
import LoopLowering.Proofs.Pass.Loops
import LoopLowering.Proofs.Pass.Gains
import LoopLowering.Proofs.Tree.Listing

namespace LoopLowering.Node

/-! ## 1. Adding -/

theorem Gains.congr {added added' : Property → Prop} {n n' : Node} (h : Gains added n n')
    (same : ∀ p, added p ↔ added' p) : Gains added' n n' :=
  ⟨h.kind, h.arity, fun p => (h.carries p).trans (or_congr_right (same p))⟩

theorem Gains.idle {added : Property → Prop} (none : ∀ p, ¬ added p) (n : Node) : Gains added n n :=
  ⟨rfl, rfl, fun p => (or_iff_left (none p)).symm⟩

theorem Gains.trans {added added' : Property → Prop} {n n' n'' : Node} (h : Gains added n n')
    (h' : Gains added' n' n'') : Gains (fun p => added p ∨ added' p) n n'' := by
  refine ⟨h'.kind.trans h.kind, h'.arity.trans h.arity, fun p => ?_⟩
  rw [h'.carries, h.carries, or_assoc]

/-- What was added at each address. -/
def Adds (added : List Nat → Property → Prop) (root after : Node) : Prop :=
  ∀ path n, root.at? path = some n → ∃ n', after.at? path = some n' ∧ Gains (added path) n n'

variable {root mid after a b : Node} {added added' : List Nat → Property → Prop}

theorem Adds.idle (none : ∀ path p, ¬ added path p) (root : Node) : Adds added root root := by
  intro path n here
  exact ⟨n, here, .idle (none path) n⟩

theorem Adds.congr (h : Adds added root after) (same : ∀ path p, added path p ↔ added' path p) :
    Adds added' root after := by
  intro path n here
  obtain ⟨n', there, gains⟩ := h path n here
  exact ⟨n', there, gains.congr (same path)⟩

theorem Adds.trans (first : Adds added root mid) (second : Adds added' mid after) :
    Adds (fun path p => added path p ∨ added' path p) root after := by
  intro path n here
  obtain ⟨m, there, gains⟩ := first path n here
  obtain ⟨n', last, gains'⟩ := second path m there
  exact ⟨n', last, gains.trans gains'⟩

/-- What was added below a child was added to the child. -/
theorem Adds.child (h : Adds added root after) {i : Nat} {c d : Node} (hc : root.children[i]? = some c)
    (hd : after.children[i]? = some d) : Adds (fun path => added (i :: path)) c d := by
  intro path n here
  obtain ⟨n', there, gains⟩ := h (i :: path) n (by rw [at?_cons, hc]; exact here)
  rw [at?_cons, hd] at there
  exact ⟨n', there, gains⟩

theorem Adds.top (h : Adds added root after) : Gains (added []) root after := by
  obtain ⟨n', there, gains⟩ := h [] root rfl
  obtain rfl : after = n' := Option.some.inj there
  exact gains

/-- To add something is to add it to the root and to the children. -/
theorem Adds.node (top : Gains (added []) root after)
    (below : ∀ i c d, root.children[i]? = some c → after.children[i]? = some d →
      Adds (fun path => added (i :: path)) c d) : Adds added root after := by
  intro path n here
  cases path with
  | nil =>
    obtain rfl : root = n := Option.some.inj here
    exact ⟨after, rfl, top⟩
  | cons i path =>
    rw [at?_cons] at here ⊢
    obtain ⟨c, hc, inside⟩ := Option.bind_eq_some_iff.1 here
    have short : i < after.children.length := by
      rw [top.arity]
      exact (List.getElem?_eq_some_iff.1 hc).1
    have hd := List.getElem?_eq_getElem short
    rw [hd]
    exact below i c _ hc hd path n inside

/-- No node was added. -/
theorem Adds.of_at? (h : Adds added root after) {path : List Nat} {n' : Node} (there : after.at? path = some n') :
    ∃ n, root.at? path = some n ∧ Gains (added path) n n' := by
  induction path generalizing root after added with
  | nil =>
    obtain rfl : after = n' := Option.some.inj there
    exact ⟨root, rfl, h.top⟩
  | cons i path ih =>
    rw [at?_cons] at there ⊢
    obtain ⟨d, hd, below⟩ := Option.bind_eq_some_iff.1 there
    have short : i < root.children.length := by
      rw [← h.top.arity]
      exact (List.getElem?_eq_some_iff.1 hd).1
    have hc := List.getElem?_eq_getElem short
    rw [hc]
    exact ih (h.child hc hd) below

/-- The same is added, apart from what was there before. -/
def NewAlike (root : Node) (added added' : List Nat → Property → Prop) : Prop :=
  ∀ path n, root.at? path = some n → ∀ p, p ∉ n.properties → (added path p ↔ added' path p)

/-- **What is added decides what becomes of a tree.** -/
theorem Adds.eq (first : Adds added root a) (second : Adds added' root b) (same : NewAlike root added added') :
    a = b := by
  induction root using induct generalizing added added' a b with
  | node kind properties children ih =>
    have gains := first.top
    have gains' := second.top
    have sets : a.properties = b.properties := by
      refine SortedSet.ext fun p => ?_
      rw [gains.carries, gains'.carries]
      by_cases before : p ∈ properties
      · exact ⟨fun _ => Or.inl before, fun _ => Or.inl before⟩
      · exact or_congr_right (same [] _ rfl p before)
    have trees : a.children = b.children := by
      refine List.ext_getElem (gains.arity.trans gains'.arity.symm) fun i hi hi' => ?_
      have hc : i < children.length := gains.arity ▸ hi
      have here := List.getElem?_eq_getElem hc
      refine ih children[i] (List.getElem_mem hc) (first.child here (List.getElem?_eq_getElem hi))
        (second.child here (List.getElem?_eq_getElem hi')) fun path n below => ?_
      refine same (i :: path) n ?_
      rw [at?_cons]
      show children[i]?.bind _ = _
      rw [here]
      exact below
    cases a
    cases b
    rw [Node.mk.injEq]
    exact ⟨gains.kind.trans gains'.kind.symm, sets, trees⟩

/-- What was added, apart from what was there before, is told from what became of the tree. -/
theorem Adds.eq_iff (first : Adds added root a) (second : Adds added' root b) :
    a = b ↔ NewAlike root added added' := by
  constructor
  · rintro rfl path n here p before
    obtain ⟨n', there, gains⟩ := first path n here
    obtain ⟨m, there', gains'⟩ := second path n here
    obtain rfl : n' = m := Option.some.inj (there.symm.trans there')
    have carried := (gains.carries p).symm.trans (gains'.carries p)
    rwa [or_iff_right before, or_iff_right before] at carried
  · exact first.eq second

/-! ## 2. Ways -/

/-- Another annotation at one address. -/
theorem adds_setAt {path : List Nat} {n : Node} (p : Property) (here : root.at? path = some n) :
    Adds (fun other q => other = path ∧ q = p) root (setAt (n.withProperty p).properties path root) := by
  induction path generalizing root with
  | nil =>
    obtain rfl : root = n := Option.some.inj here
    cases root with
    | mk kind own children =>
      refine .node ⟨rfl, rfl, fun q => ?_⟩ fun i c d hc hd => ?_
      · show q ∈ own.insert p ↔ q ∈ own ∨ _
        simp only [SortedSet.mem_insert, true_and, or_comm]
      · obtain rfl : c = d := Option.some.inj (hc.symm.trans hd)
        exact .idle (fun _ _ other => nomatch other.1) c
  | cons i path ih =>
    rw [at?_cons] at here
    obtain ⟨c, hc, below⟩ := Option.bind_eq_some_iff.1 here
    cases root with
    | mk kind own children =>
      rw [setAt]
      refine .node ⟨rfl, List.length_modify .., fun q => (or_iff_left fun other => nomatch other.1).symm⟩ ?_
      intro j c' d hc' hd
      by_cases way : i = j
      · subst way
        obtain rfl : c = c' := Option.some.inj (hc.symm.trans hc')
        obtain rfl : setAt (n.withProperty p).properties path c = d := by
          rw [List.getElem?_modify_eq, hc'] at hd
          exact Option.some.inj hd
        refine (ih below).congr fun other q => ?_
        rw [List.cons_inj_right]
      · obtain rfl : c' = d := by
          rw [List.getElem?_modify_ne _ _ way] at hd
          exact Option.some.inj (hc'.symm.trans hd)
        exact .idle (fun _ _ other => way (List.cons.inj other.1).1.symm) c'

/-- A pass adds what its effect says, and that is told place by place. -/
theorem adds_run {pass : Pass} {ctx : Pass.Context} {u u' : TranslationUnit}
    (known : pass ∈ Pass.Library.processor.passes) (ran : pass.run ctx u = .ok u') :
    Adds (fun path q => ∃ above n, place? [] u.root path = some (above, n) ∧
      pass.name ∈ Pass.givers q ∧ Pass.Suits ctx above n q) u.root u'.root := by
  rw [Pass.run_eq known] at ran
  split at ran
  · cases ran
  · obtain rfl := Except.ok.inj ran
    intro path n here
    obtain ⟨⟨above, n⟩, place, rfl⟩ := Option.map_eq_some_iff.1 here
    obtain ⟨above', n', place', gains⟩ := annotated_mark (fun _ _ _ => Pass.mem_effect) u.root path above n place
    refine ⟨n', Option.map_eq_some_iff.2 ⟨_, place', rfl⟩, gains.congr fun q => ?_⟩
    constructor
    · intro gives
      exact ⟨above, n, place, gives⟩
    · rintro ⟨above', n', place', gives⟩
      obtain ⟨rfl, rfl⟩ := Prod.mk.inj (Option.some.inj (place.symm.trans place'))
      exact gives

/-- A text from which a grown tree was read lists all that was added, and maybe what was there before. -/
theorem adds_read {n : Node} {s : String} {j : Json} {more : List Nat → Property → Prop}
    (parsed : Json.read? s = some j) (read : read? s = some n) (grows : Adds more root n) :
    Adds (fun path q => ∃ v ∈ listed j path, q.WrittenAs v) root n := by
  rw [read?, parsed, Option.bind_some] at read
  intro path m here
  obtain ⟨n', there, gains⟩ := grows path m here
  refine ⟨n', there, gains.kind, gains.arity, fun q => ?_⟩
  have lists : q ∈ n'.properties ↔ ∃ v ∈ listed j path, q.WrittenAs v := mem_properties_of_ofJson? read there
  constructor
  · intro carries
    exact Or.inr (lists.1 carries)
  · rintro (before | listed)
    · exact (gains.carries q).2 (Or.inl before)
    · exact lists.2 listed

/-- Ways to insert annotations into a tree, and what they insert at each address. -/
inductive Insertion : Node → (List Nat → Property → Prop) → Node → Prop
  /-- A builder inserts an annotation into the node at an address. -/
  | builder {root n : Node} {path : List Nat} (p : Property) (here : root.at? path = some n) :
      Insertion root (fun other q => other = path ∧ q = p) (setAt (n.withProperty p).properties path root)
  /-- A pass inserts the annotations that it gives, where they suit. -/
  | pass {pass : Pass} {ctx : Pass.Context} {u u' : TranslationUnit} (known : pass ∈ Pass.Library.processor.passes)
      (ran : pass.run ctx u = .ok u') :
      Insertion u.root (fun path q => ∃ above n, place? [] u.root path = some (above, n) ∧
        pass.name ∈ Pass.givers q ∧ Pass.Suits ctx above n q) u'.root
  /-- A text that lists at least the annotations of a tree inserts all that it lists. -/
  | text {root n : Node} {s : String} {j : Json} {more : List Nat → Property → Prop}
      (parsed : Json.read? s = some j) (read : read? s = some n) (grows : Adds more root n) :
      Insertion root (fun path q => ∃ v ∈ listed j path, q.WrittenAs v) n

/-- **Each way adds what it inserts.** -/
theorem Insertion.adds (h : Insertion root added after) : Adds added root after := by
  cases h with
  | builder p here => exact adds_setAt p here
  | pass known ran => exact adds_run known ran
  | text parsed read grows => exact adds_read parsed read grows

/-- **A text may list the annotations of a node in any order**, and more than once; reading it inserts them. -/
theorem insertion_listing {kind : Kind} {own : PropertySet} {children : List Node} (ps : List Property)
    (low : height ⟨kind, own, children⟩ ≤ maxHeight) (whole : ∀ p ∈ own, p ∈ ps) :
    read? (listing kind ps children).compactText = some ⟨kind, .ofList ps, children⟩ ∧
      ∃ added, Insertion ⟨kind, own, children⟩ added ⟨kind, .ofList ps, children⟩ ∧
        NewAlike ⟨kind, own, children⟩ added fun path p => path = [] ∧ p ∈ ps := by
  have reads : read? (listing kind ps children).compactText = some ⟨kind, .ofList ps, children⟩ := by
    rw [height_node] at low
    rw [(read?_listing kind ps children).1, height_node, if_pos low]
  have grows : Adds (fun path p => path = [] ∧ p ∈ ps) ⟨kind, own, children⟩ ⟨kind, .ofList ps, children⟩ := by
    refine .node ⟨rfl, rfl, fun p => ?_⟩ fun i c d hc hd => ?_
    · show p ∈ SortedSet.ofList ps ↔ p ∈ own ∨ _
      simp only [SortedSet.mem_ofList, true_and, or_iff_right_of_imp (whole p)]
    · obtain rfl : c = d := Option.some.inj (hc.symm.trans hd)
      exact .idle (fun _ _ other => nomatch other.1) c
  have insertion := Insertion.text (Json.read?_compactText _) reads grows
  exact ⟨reads, _, insertion, (insertion.adds.eq_iff grows).1 rfl⟩

/-- Insertions one after the other, and what all of them insert. -/
inductive Insertions : Node → (List Nat → Property → Prop) → Node → Prop
  | nothing (root : Node) : Insertions root (fun _ _ => False) root
  | next {root mid after : Node} {before added : List Nat → Property → Prop} (earlier : Insertions root before mid)
      (last : Insertion mid added after) : Insertions root (fun path p => before path p ∨ added path p) after

/-- **A series adds what its members insert.** -/
theorem Insertions.adds (h : Insertions root added after) : Adds added root after := by
  induction h with
  | nothing => exact .idle (fun _ _ => id) _
  | next _ last ih => exact ih.trans last.adds

/-! ## 3. One tree for one set -/

/-- **Order, repetition and way leave no trace.**  Two series of insertions into a tree end in one tree exactly if
    they insert the same, apart from what was there before, and then the texts and the fingerprints are the same too.
    Either text lists for each node its annotations in the order of writing, and these are those that it had or
    that were inserted into it. -/
theorem insertions_canonical (first : Insertions root added a) (second : Insertions root added' b) :
    (a = b ↔ NewAlike root added added') ∧
    (NewAlike root added added' →
      a.compactText = b.compactText ∧ a.prettyText = b.prettyText ∧ a.fingerprint = b.fingerprint) ∧
    ∃ j, Json.read? a.compactText = some j ∧ Json.read? a.prettyText = some j ∧
      ∀ path n', a.at? path = some n' → ∃ (n : Node) (written : List Property), root.at? path = some n ∧
        listed j path = written.map Property.json ∧ written.Pairwise Property.Before ∧
        ∀ p, (p ∈ written ↔ p ∈ n.properties ∨ added path p) ∧
          (n'.hasProperty p = true ↔ p ∈ n.properties ∨ added path p) := by
  have adds := first.adds
  have eq_iff := adds.eq_iff second.adds
  refine ⟨eq_iff, fun alike => ?_, a.json, Json.read?_compactText _, Json.read?_prettyText _, ?_⟩
  · rw [eq_iff.2 alike]
    exact ⟨rfl, rfl, rfl⟩
  · intro path n' there
    obtain ⟨n, here, gains⟩ := adds.of_at? there
    refine ⟨n, n'.properties.toList, here, listed_json there, ?_, fun p => ⟨gains.carries p, ?_⟩⟩
    · exact n'.properties.increasing.imp Property.compare_eq_lt_iff.1
    · rw [hasProperty_iff, gains.carries]

/-- A loop that gets two levels of blocking and vectors, once from builders and a pass, with a repetition, and
    once from a text that lists them in another order. -/
theorem insertions_canonical_loop :
    let loop := Node.iteration "x" []
    let tiled := ((loop.withProperty (.blocked 2)).withProperty (.blocked 1)).withProperty (.blocked 2)
    let marked := tiled.withProperty .vectorized
    let text := (listing (.iteration "x" none) [.blocked 1, .vectorized, .blocked 2, .vectorized] []).compactText
    ∃ added added' n, Insertions loop added marked ∧ read? text = some n ∧ Insertions loop added' n ∧
      NewAlike loop added added' ∧ marked.compactText = n.compactText ∧ marked.prettyText = n.prettyText ∧
      marked.fingerprint = n.fingerprint := by
  intro loop tiled marked text
  have builders : Insertions loop _ tiled :=
    (((Insertions.nothing loop).next (.builder (.blocked 2) (at?_nil _))).next
      (.builder (.blocked 1) (at?_nil _))).next (.builder (.blocked 2) (at?_nil _))
  have vectors : Pass.simd.run ⟨{}, .knl⟩ { root := tiled } = .ok { root := marked } := rfl
  have first := builders.next (.pass (.tail _ (.head _)) vectors)
  obtain ⟨reads, added', insertion, -⟩ :=
    insertion_listing [.blocked 1, .vectorized, .blocked 2, .vectorized] (show loop.height ≤ maxHeight by decide) nofun
  have second := (Insertions.nothing loop).next insertion
  have same : marked = ⟨.iteration "x" none, .ofList [.blocked 1, .vectorized, .blocked 2, .vectorized], []⟩ := by
    decide
  obtain ⟨alike, texts, -⟩ := insertions_canonical first second
  exact ⟨_, _, _, first, reads, second, alike.1 same, texts (alike.1 same)⟩

end LoopLowering.Node
