/-
  What the annotation passes do, said as rules.

  1.  An EFFECT is a rule for annotations and a list of headers.  It is STABLE if it looks at nothing but
      skeletons and leaves them as they are.  Stable effects one after the other are one effect
      (`Effect.apply_all`), so what a sequence of them does depends on its members alone
      (`Effect.apply_all_congr`).

  2.  The rules of the passes are conditions on a node and the nodes above it.  Two need a word on what
      stands above:
        * a loop is OUTERMOST PARALLEL if it may run in parallel and no such loop is above it;
        * a place is DIRECTLY BELOW if the nearest loop above it is outermost parallel.

  3.  Each pass of the processor back end performs its effect (`run_eq`); only `blocking` can refuse, and
      whether it does is decided by options and platform alone (`refusal?`).
-/
import LoopLowering.Pass.Annotation
import LoopLowering.Proofs.Tree.Marking

namespace LoopLowering

namespace Pass

open Node (Rule Seen skeleton mark mark_node induct)

/-! ## 1. Effects -/

/-- The annotations and the headers that a pass adds. -/
structure Effect where
  rule : Rule
  headers : Node → List String

namespace Effect

/-- The unit that an effect leaves. -/
def apply (e : Effect) (u : TranslationUnit) : TranslationUnit :=
  ⟨u.root.mark e.rule [], (e.headers u.root).foldl SortedSet.insert u.includes⟩

/-- The effect looks at nothing but skeletons, and leaves them as they are. -/
structure Stable (e : Effect) : Prop where
  sees : e.rule.Sees
  keeps : e.rule.Keeps
  headers_eq : ∀ n n', n.skeleton = n'.skeleton → e.headers n = e.headers n'

/-- The effects of a list together. -/
def all (l : List Effect) : Effect where
  rule above n := l.flatMap fun e => e.rule above n
  headers n := l.flatMap fun e => e.headers n

theorem stable_all {l : List Effect} (h : ∀ e ∈ l, e.Stable) : (all l).Stable where
  sees above above' n n' ha hn := by
    have same : ∀ e ∈ l, e.rule above n = e.rule above' n' :=
      fun e he => (h e he).sees above above' n n' ha hn
    show l.flatMap _ = l.flatMap _
    rw [List.flatMap_def, List.flatMap_def, List.map_congr_left same]
  keeps above n hs := by
    obtain ⟨e, he, hs⟩ := List.mem_flatMap.1 hs
    exact (h e he).keeps above n hs
  headers_eq n n' hn := by
    have same : ∀ e ∈ l, e.headers n = e.headers n' := fun e he => (h e he).headers_eq n n' hn
    show l.flatMap _ = l.flatMap _
    rw [List.flatMap_def, List.flatMap_def, List.map_congr_left same]

/-- **Effects one after the other are one effect.** -/
theorem apply_all {l : List Effect} (h : ∀ e ∈ l, e.Stable) (u : TranslationUnit) :
    (all l).apply u = l.foldl (fun u e => e.apply u) u := by
  induction l generalizing u with
  | nil =>
    have same : u.root.mark (all []).rule [] = u.root :=
      Node.mark_eq_self (P := fun _ => True) (fun _ _ _ => rfl) (fun _ _ _ => trivial) trivial _
    show TranslationUnit.mk (u.root.mark (all []).rule []) u.includes = u
    rw [same]
  | cons e l ih =>
    have he := h e List.mem_cons_self
    have hl := stable_all fun f hf => h f (List.mem_cons_of_mem e hf)
    rw [List.foldl_cons, ← ih fun f hf => h f (List.mem_cons_of_mem e hf)]
    have root : (u.root.mark e.rule []).mark (all l).rule [] = u.root.mark (all (e :: l)).rule [] :=
      Node.mark_mark hl.sees he.keeps rfl u.root
    have headers : (all l).headers (u.root.mark e.rule []) = (all l).headers u.root :=
      hl.headers_eq _ _ (Node.skeleton_mark he.keeps [] u.root)
    have split : (all (e :: l)).headers u.root = e.headers u.root ++ (all l).headers u.root := rfl
    show TranslationUnit.mk _ _ = TranslationUnit.mk _ _
    rw [split, List.foldl_append]
    show _ = TranslationUnit.mk ((u.root.mark e.rule []).mark (all l).rule [])
      (((all l).headers (u.root.mark e.rule [])).foldl _ _)
    rw [root, headers]
    rfl

/-- The same effects, in whatever order and number, are the same effect. -/
theorem apply_all_congr {l m : List Effect} (h : ∀ e, e ∈ l ↔ e ∈ m) (u : TranslationUnit) :
    (all l).apply u = (all m).apply u := by
  have rules : ∀ above n p, p ∈ (all l).rule above n ↔ p ∈ (all m).rule above n := fun above n p => by
    show p ∈ l.flatMap _ ↔ p ∈ m.flatMap _
    rw [List.mem_flatMap, List.mem_flatMap]
    exact exists_congr fun e => and_congr_left fun _ => h e
  have headers : ((all l).headers u.root).foldl SortedSet.insert u.includes =
      ((all m).headers u.root).foldl SortedSet.insert u.includes := by
    apply SortedSet.ext
    intro x
    rw [SortedSet.mem_foldl_insert, SortedSet.mem_foldl_insert]
    refine or_congr_right ?_
    show x ∈ l.flatMap _ ↔ x ∈ m.flatMap _
    rw [List.mem_flatMap, List.mem_flatMap]
    exact exists_congr fun e => and_congr_left fun _ => h e
  show TranslationUnit.mk _ _ = TranslationUnit.mk _ _
  rw [Node.mark_congr rules, headers]

/-- **A stable effect changes nothing the second time.** -/
theorem apply_again {e : Effect} (h : e.Stable) (u : TranslationUnit) :
    e.apply ⟨(e.apply u).root, u.includes⟩ = e.apply u := by
  have root : (u.root.mark e.rule []).mark e.rule [] = u.root.mark e.rule [] := by
    rw [Node.mark_mark h.sees h.keeps rfl]
    refine Node.mark_congr (fun above n p => ?_) [] u.root
    rw [List.mem_append, or_self]
  have headers : e.headers (u.root.mark e.rule []) = e.headers u.root :=
    h.headers_eq _ _ (Node.skeleton_mark h.keeps [] u.root)
  show TranslationUnit.mk ((u.root.mark e.rule []).mark e.rule [])
    ((e.headers (u.root.mark e.rule [])).foldl _ _) = _
  rw [root, headers]
  rfl

end Effect

/-! ## 2. The rules of the passes -/

/-- The rule that adds one annotation where a condition holds. -/
def adding (p : Property) (condition : List Node → Node → Bool) : Rule :=
  fun above n => if condition above n then [p] else []

/-- A loop with no loop above it. -/
def isOutermostLoop (above : List Node) (n : Node) : Bool := n.isIteration && !above.any Node.isIteration

/-- A loop that may run in parallel, with no such loop above it. -/
def isOutermostParallel (above : List Node) (n : Node) : Bool :=
  n.isParallelizable && !above.any Node.isParallelizable

/-- Whether the nearest loop above is an outermost parallel one. -/
def isDirectlyBelow : List Node → Bool
  | [] => false
  | a :: above => if a.isIteration then isOutermostParallel above a else isDirectlyBelow above

/-- The headers, if some node of the tree satisfies the condition. -/
def needing (headers : List String) (condition : Node → Bool) (root : Node) : List String :=
  if root.preorder.any condition then headers else []

/-- What `denormals` does. -/
def denormalsEffect : Effect where
  rule := adding .flushDenormals fun _ n => n.kind.isCallable
  headers := needing ["xmmintrin.h", "pmmintrin.h"] fun n => n.kind.isCallable

/-- What `simd` does. -/
def simdEffect (ctx : Context) : Effect where
  rule := adding .vectorized fun _ n =>
    ctx.platform.vectorBytes ≠ 0 && (n.isParallelizable && n.isInnermost)
  headers _ := []

/-- What `blocking` does, if it does not refuse. -/
def blockingEffect (ctx : Context) : Effect where
  rule := adding (.blocked ctx.blockLevels) fun _ n =>
    ctx.blockLevels ≠ 0 && isBlockable ctx.options.blockinner n
  headers _ := []

/-- What `openmp` and `openmp-nested` do. -/
def openmpEffect (nested : Bool) : Effect where
  rule above n := adding .parallel isOutermostParallel above n ++
    adding .parallelNested (fun above n => nested && n.isParallelizable && isDirectlyBelow above) above n
  headers := needing ["omp.h"] Node.isParallelizable

/-- What `mpi` does. -/
def mpiEffect : Effect where
  rule := adding .distributed isOutermostLoop
  headers := needing ["mpi.h"] Node.isIteration

/-- What the pass of a name does; there is nothing to say of names that no pass has. -/
def effect (ctx : Context) (name : String) : Effect :=
  match name with
  | "denormals" => denormalsEffect
  | "simd" => simdEffect ctx
  | "blocking" => blockingEffect ctx
  | "openmp" => openmpEffect false
  | "openmp-nested" => openmpEffect true
  | "mpi" => mpiEffect
  | _ => ⟨fun _ _ => [], fun _ => []⟩

/-! ## Every effect is stable -/

theorem seen_isParallelizable : Seen Node.isParallelizable := fun n n' h => by
  rw [Node.isParallelizable, Node.isParallelizable, Node.seen_isIteration n n' h,
    Node.sequential_of_skeleton h]

theorem mem_adding {p q : Property} {condition : List Node → Node → Bool} {above : List Node} {n : Node} :
    q ∈ adding p condition above n ↔ q = p ∧ condition above n = true := by
  unfold adding
  cases condition above n <;> simp

theorem mem_needing {header : String} {headers : List String} {condition : Node → Bool} {root : Node} :
    header ∈ needing headers condition root ↔ header ∈ headers ∧ ∃ m ∈ root.preorder, condition m = true := by
  rw [needing, ← List.any_eq_true]
  split <;> simp_all

theorem sees_adding {p : Property} {condition : List Node → Node → Bool}
    (h : ∀ above above' n n', above.map skeleton = above'.map skeleton → n.skeleton = n'.skeleton →
      condition above n = condition above' n') : Rule.Sees (adding p condition) := by
  intro above above' n n' ha hn
  rw [adding, adding, h above above' n n' ha hn]

/-- A condition on the node alone. -/
theorem sees_adding_node {p : Property} {condition : Node → Bool} (h : Seen condition) :
    Rule.Sees (adding p fun _ n => condition n) :=
  sees_adding fun _ _ n n' _ hn => h n n' hn

theorem keeps_adding {p : Property} {condition : List Node → Node → Bool} (h : p ≠ .sequential) :
    Rule.Keeps (adding p condition) :=
  fun _ _ hs => h (mem_adding.1 hs).1.symm

theorem needing_eq {headers : List String} {condition : Node → Bool} (h : Seen condition) (n n' : Node)
    (hn : n.skeleton = n'.skeleton) : needing headers condition n = needing headers condition n' := by
  have same : n.preorder.any condition = n'.preorder.any condition := h.any_preorder n n' hn
  rw [needing, needing, same]

theorem sees_isOutermostParallel {above above' : List Node} {n n' : Node}
    (ha : above.map skeleton = above'.map skeleton) (hn : n.skeleton = n'.skeleton) :
    isOutermostParallel above n = isOutermostParallel above' n' := by
  rw [isOutermostParallel, isOutermostParallel, seen_isParallelizable n n' hn,
    seen_isParallelizable.any ha]

theorem sees_isDirectlyBelow :
    ∀ {above above' : List Node}, above.map skeleton = above'.map skeleton →
      isDirectlyBelow above = isDirectlyBelow above'
  | [], [], _ => rfl
  | a :: above, a' :: above', h => by
    obtain ⟨ha, hrest⟩ := List.cons.inj h
    rw [isDirectlyBelow, isDirectlyBelow, Node.seen_isIteration a a' ha,
      sees_isOutermostParallel hrest ha, sees_isDirectlyBelow hrest]

theorem stable_openmpEffect (nested : Bool) : (openmpEffect nested).Stable where
  sees above above' n n' ha hn := by
    have outermost : Rule.Sees (adding .parallel isOutermostParallel) :=
      sees_adding fun _ _ _ _ => sees_isOutermostParallel
    have inside : Rule.Sees (adding .parallelNested fun above n =>
        nested && n.isParallelizable && isDirectlyBelow above) :=
      sees_adding fun above above' n n' ha hn => by
        rw [seen_isParallelizable n n' hn, sees_isDirectlyBelow ha]
    show adding _ _ above n ++ adding _ _ above n = adding _ _ above' n' ++ adding _ _ above' n'
    rw [outermost above above' n n' ha hn, inside above above' n n' ha hn]
  keeps above n h := by
    rcases List.mem_append.1 h with h | h
    · exact keeps_adding (by decide) above n h
    · exact keeps_adding (by decide) above n h
  headers_eq := needing_eq seen_isParallelizable

theorem stable_effect (ctx : Context) (name : String) : (effect ctx name).Stable := by
  unfold effect
  split
  · exact ⟨sees_adding_node Node.seen_isCallable, keeps_adding (by decide),
      needing_eq Node.seen_isCallable⟩
  · refine ⟨sees_adding_node fun n n' h => ?_, keeps_adding (by decide), fun _ _ _ => rfl⟩
    rw [seen_isParallelizable n n' h, Node.seen_isInnermost n n' h]
  · refine ⟨sees_adding_node fun n n' h => ?_, keeps_adding (by simp), fun _ _ _ => rfl⟩
    rw [isBlockable, isBlockable, seen_isParallelizable n n' h, Node.seen_isInnermost n n' h]
  · exact stable_openmpEffect false
  · exact stable_openmpEffect true
  · refine ⟨sees_adding fun above above' n n' ha hn => ?_, keeps_adding (by decide),
      needing_eq Node.seen_isIteration⟩
    rw [isOutermostLoop, isOutermostLoop, Node.seen_isIteration n n' hn, Node.seen_isIteration.any ha]
  · exact ⟨fun _ _ _ _ _ _ => rfl, fun _ _ h => absurd h List.not_mem_nil, fun _ _ _ => rfl⟩

end Pass

end LoopLowering
