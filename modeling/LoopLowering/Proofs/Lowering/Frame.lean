/-
  What lowering leaves alone.

  1.  SHAPE.  The shape of a tree is the tree without annotations.  A rule only adds annotations, so marking
      keeps the shape (`shape_mark`).

  2.  KINDS.  What a pass may add to a node is decided by the kind of the node alone (`Kind.Admits`): `sequential`
      is never among it, flushing is for callables, everything else for loops.  Each annotation that suits a
      node is admitted (`admits_of_suits`).

  3.  FRAME.  So a sequence of passes, whatever passes there are and however often, leaves each node in its
      place, with its kind, its old annotations and admitted new ones (`frame_effects`), and a lowering
      does no more than a sequence (`lower_frame`).
-/
import LoopLowering.Proofs.Lowering.WellAnnotated

namespace LoopLowering

open Node (Rule mark place? markPath mem_mark)

/-! ## 1. Shapes -/

namespace Node

mutual

/-- The tree without annotations. -/
def shape : Node → Node
  | ⟨kind, _, children⟩ => ⟨kind, ∅, shapeAll children⟩

/-- The trees of a list without annotations. -/
def shapeAll : List Node → List Node
  | [] => []
  | n :: rest => shape n :: shapeAll rest

end

theorem shapeAll_eq (l : List Node) : shapeAll l = l.map shape := by
  induction l with
  | nil => rfl
  | cons n rest ih => rw [shapeAll, ih, List.map_cons]

/-- Marking keeps the shape, whatever the rule is. -/
theorem shape_mark (rule : Rule) (above : List Node) (n : Node) : (mark rule above n).shape = n.shape := by
  induction n using induct generalizing above with
  | node kind properties children ih =>
    have below : (children.map (mark rule (⟨kind, properties, children⟩ :: above))).map shape =
        children.map shape := by
      rw [List.map_map]
      exact List.map_congr_left fun c hc => ih c hc _
    rw [mark_node, shape, shape, shapeAll_eq, shapeAll_eq, below]

end Node

/-! ## 2. Kinds -/

/-- The annotations that passes may add to a node of a kind. -/
def Kind.Admits : Kind → Property → Prop
  | iteration .., p => p ≠ .sequential ∧ p ≠ .flushDenormals
  | callable _, p => p = .flushDenormals
  | region _, _ => False
  | expression _, _ => False
  | list, _ => False

namespace Kind

theorem admits_of_isIteration {k : Kind} (loop : k.isIteration = true) {p : Property}
    (dependent : p ≠ .sequential) (callable : p ≠ .flushDenormals) : k.Admits p := by
  cases k with
  | iteration dim extent => exact ⟨dependent, callable⟩
  | callable name => cases loop
  | region name => cases loop
  | expression expr => cases loop
  | list => cases loop

theorem admits_of_isCallable {k : Kind} (callable : k.isCallable = true) : k.Admits .flushDenormals := by
  cases k with
  | callable name => rfl
  | iteration dim extent => cases callable
  | region name => cases callable
  | expression expr => cases callable
  | list => cases callable

theorem not_admits_sequential (k : Kind) : ¬ k.Admits .sequential := by
  cases k with
  | iteration dim extent => exact fun admits => admits.1 rfl
  | callable name => exact nofun
  | region name => exact id
  | expression expr => exact id
  | list => exact id

end Kind

/-- A node and what passes left of it. -/
structure Framed (n n' : Node) : Prop where
  /-- It is of the same kind. -/
  kind : n'.kind = n.kind
  /-- It has all its annotations. -/
  kept : ∀ p ∈ n.properties, p ∈ n'.properties
  /-- It carries a dependence if it did. -/
  sequential : .sequential ∈ n'.properties ↔ .sequential ∈ n.properties
  /-- It has no new annotation but those that its kind admits. -/
  gained : ∀ p ∈ n'.properties, p ∈ n.properties ∨ n.kind.Admits p

namespace Pass

/-- What suits a node, its kind admits. -/
theorem admits_of_suits {ctx : Context} {above : List Node} {n : Node} {p : Property}
    (suits : Suits ctx above n p) : n.kind.Admits p := by
  by_cases callable : p = .flushDenormals
  · subst callable
    exact Kind.admits_of_isCallable suits
  · have dependent : p ≠ .sequential := by
      rintro rfl
      exact suits
    exact Kind.admits_of_isIteration (isIteration_of_suits suits callable) dependent callable

/-! ## 3. Frame -/

/-- A rule that adds what kinds admit keeps nodes framed. -/
theorem framed_mark {rule : Rule} (admitted : ∀ above n, ∀ p ∈ rule above n, n.kind.Admits p) (above : List Node)
    (n : Node) : Framed n (mark rule above n) where
  kind := Node.kind_mark rule above n
  kept _ carries := mem_mark.2 (Or.inl carries)
  sequential := by
    rw [mem_mark]
    exact or_iff_left fun said => n.kind.not_admits_sequential (admitted above n _ said)
  gained p carries := (mem_mark.1 carries).imp_right (admitted above n p)

/-- **What passes leave alone.** -/
theorem frame_effects (ctx : Context) (names : List String) (root : Node) :
    let root' := ((effects ctx names).apply { root }).root
    root'.shape = root.shape ∧ ∀ path above n, place? [] root path = some (above, n) →
      ∃ above' n', place? [] root' path = some (above', n') ∧ Framed n n' := by
  refine ⟨Node.shape_mark (effects ctx names).rule [] root, fun path above n here => ?_⟩
  have admitted : ∀ above n, ∀ p ∈ (effects ctx names).rule above n, n.kind.Admits p :=
    fun above n p said => admits_of_suits (mem_effects.1 said).2
  exact ⟨_, _, place?_apply_effects ctx names here, framed_mark admitted above n⟩

end Pass

namespace Backend

/-- **What lowering leaves alone.**  A lowering that succeeds keeps the shape of the tree.  Each node has all its
    annotations, and carries a dependence if it did.  A loop has not come to flush denormal numbers, a
    callable has come to do nothing else, and any other node has nothing new. -/
theorem lower_frame (c : Configuration) (elapsed : Nat → Duration) (seconds : Nat → String) (root : Node)
    (p : Platform) (request : Option ModeRequest) (overrides : List Override) {lowered : Lowered}
    (lowers : (Lowerer.lower ⟨registry, c, elapsed, seconds⟩ root p request overrides).result = .ok lowered) :
    lowered.run.unit.root.shape = root.shape ∧
    ∀ path above n, place? [] root path = some (above, n) →
      ∃ above' n', place? [] lowered.run.unit.root path = some (above', n') ∧ Framed n n' := by
  rw [unit_of_lower lowers]
  exact Pass.frame_effects _ _ root

/-- Two loops, the outer of which carries a dependence, with a statement in a group in the inner one, and
    passes that are named by the caller, one of them twice: the inner loop comes to be in vector registers. -/
theorem lower_frame_repeated :
    let root : Node := .callable "f" [⟨.region "s", ∅,
      [(Node.iteration "t" [.iteration "x" [.list [.expression "u = 0"]]]).withProperty .sequential]⟩]
    let request : ModeRequest := .passes ["simd", "denormals", "openmp-nested", "simd"]
    ∃ lowered, (Lowerer.lower ⟨registry, {}, fun _ => 0, fun n => toString n⟩ root .knl (some request) []).result =
        .ok lowered ∧
      lowered.run.unit.root.shape = root.shape ∧
      ∃ above n above' n', place? [] root [0, 0, 0] = some (above, n) ∧
        place? [] lowered.run.unit.root [0, 0, 0] = some (above', n') ∧
        .vectorized ∉ n.properties ∧ .vectorized ∈ n'.properties ∧ Framed n n' := by
  intro root request
  obtain ⟨lowered, lowers⟩ : ∃ lowered,
      (Lowerer.lower ⟨registry, {}, fun _ => 0, fun n => toString n⟩ root .knl (some request) []).result =
        .ok lowered := ⟨_, rfl⟩
  obtain ⟨same, frame⟩ := lower_frame {} (fun _ => 0) (fun n => toString n) root .knl (some request) [] lowers
  obtain ⟨above, n, here, before⟩ : ∃ above n, place? [] root [0, 0, 0] = some (above, n) ∧
      .vectorized ∉ n.properties := ⟨_, _, rfl, by decide⟩
  obtain ⟨above', n', there, framed⟩ := frame [0, 0, 0] above n here
  have after : ∀ m, place? [] lowered.run.unit.root [0, 0, 0] = some m → .vectorized ∈ m.2.properties := by
    obtain rfl := Except.ok.inj lowers
    intro m hm
    obtain rfl := Option.some.inj hm
    decide
  exact ⟨lowered, lowers, same, above, n, above', n', here, there, before, after _ there, framed⟩

end Backend

end LoopLowering
