/-
  The annotation passes of the processor back end.

  None of them restructures the tree.  They mark nodes with the annotations that a code generator acts
  on, and they note the headers that its code will need:

    * `denormals`      — every callable flushes denormal numbers;
    * `simd`           — innermost loops run in vector registers, if the platform has any;
    * `blocking`       — loops that hold a loop are tiled, innermost ones only on request;
    * `openmp`         — the outermost loops that may run in parallel do;
    * `openmp-nested`  — and so do the outermost loops inside those;
    * `mpi`            — the outermost loops are divided among processes.

  A loop that carries a dependence (`sequential`) is never vectorized, tiled or run in parallel.  What
  a pass looks at (kinds, nesting, `sequential`) is never written by any of them, so they can run in any
  order and any number of times.
-/
import LoopLowering.Tree.Traversal
import LoopLowering.Pass.Basic

namespace LoopLowering

/-- Whether the node is a loop that carries no dependence. -/
def Node.isParallelizable (n : Node) : Bool := n.isIteration && !n.hasProperty .sequential

namespace Pass

/-- The annotations of a node, with `p` among them if the condition holds. -/
def annotateIf (condition : Node → Bool) (p : Property) (n : Node) : PropertySet :=
  if condition n then n.properties.insert p else n.properties

/-- A visitor that annotates and counts the nodes that satisfy a condition. -/
def tally (condition : Node → Bool) (p : Property) : Node.Visitor (StateM Nat) := fun n => do
  if condition n then modify (· + 1)
  return annotateIf condition p n

/-- The unit with its headers extended if the count is positive. -/
def includeIf (count : Nat) (headers : List String) (u : TranslationUnit) : TranslationUnit :=
  if 0 < count then headers.foldl .addInclude u else u

/-! ## Callables -/

/-- Flushes denormal numbers in every callable. -/
def denormals : Pass where
  name := "denormals"
  run _ u :=
    let (root, count) := (u.root.walk (tally (fun n => n.kind.isCallable) .flushDenormals)).run 0
    .ok (includeIf count ["xmmintrin.h", "pmmintrin.h"] { u with root })

/-! ## Vectors and blocks -/

/-- Vectorizes the innermost loops. -/
def simd : Pass where
  name := "simd"
  run ctx u :=
    if ctx.platform.vectorBytes = 0 then .ok u
    else
      let visit : Node.Visitor Id := annotateIf Node.isParallelizable .vectorized
      .ok { u with root := (u.root.walkInnermost visit).run }

/-- The most levels of blocking that can be annotated. -/
def maxBlockLevels : Nat := 4

/-- The levels of blocking that options and platform ask for. -/
def Context.blockLevels (ctx : Context) : UInt32 :=
  ctx.options.blocklevels.getD ctx.platform.blockLevels

/-- Whether a loop is tiled: an innermost one only if `inner` says so. -/
def isBlockable (inner : Bool) (n : Node) : Bool :=
  n.isParallelizable && (inner || !n.isInnermost)

/-- The complaint about too many levels of blocking. -/
def tooManyLevels (levels : UInt32) : Failure :=
  ⟨s!"{levels.toNat} blocking levels requested, at most {maxBlockLevels} supported"⟩

/-- Tiles loops. -/
def blocking : Pass where
  name := "blocking"
  run ctx u :=
    let levels := ctx.blockLevels
    if maxBlockLevels < levels.toNat then .error (tooManyLevels levels)
    else if levels = 0 then .ok u
    else
      let visit : Node.Visitor Id :=
        annotateIf (isBlockable ctx.options.blockinner) (.blocked levels)
      .ok { u with root := (u.root.walk visit).run }

/-! ## Shared memory -/

/-- Marks the outermost loops of a list of trees as nested parallel loops. -/
def markNested (children : List Node) : List Node :=
  let visit : Node.Visitor Id := annotateIf Node.isParallelizable .parallelNested
  (Node.walkOutermostAll visit children).run

mutual

/-- Marks the outermost loops that may run in parallel, looking through those that may not; gives the
    tree and the number of loops marked.  With `nested` the outermost loops inside are marked too. -/
def markParallel (nested : Bool) : Node → Node × Nat
  | ⟨kind, properties, children⟩ =>
    -- Below a marked loop nothing else is marked at the first level.
    if Node.isParallelizable ⟨kind, properties, children⟩ then
      (⟨kind, properties.insert .parallel, if nested then markNested children else children⟩, 1)
    else
      let (children, count) := markParallelAll nested children
      (⟨kind, properties, children⟩, count)

/-- Marks the outermost loops that may run in parallel in a list of trees. -/
def markParallelAll (nested : Bool) : List Node → List Node × Nat
  | [] => ([], 0)
  | n :: rest =>
    let (n, count) := markParallel nested n
    let (rest, more) := markParallelAll nested rest
    (n :: rest, count + more)

end

/-- Runs loops in parallel in shared memory, at one level or at two. -/
def openmp (nested : Bool) : Pass where
  name := if nested then "openmp-nested" else "openmp"
  run _ u :=
    let (root, count) := markParallel nested u.root
    .ok (includeIf count ["omp.h"] { u with root })

/-! ## Distributed memory -/

/-- Divides loops among processes. -/
def mpi : Pass where
  name := "mpi"
  run _ u :=
    let (root, count) := (u.root.walkOutermost (tally (fun _ => true) .distributed)).run 0
    .ok (includeIf count ["mpi.h"] { u with root })

/-- The passes of the processor back end. -/
def Library.processor : Library :=
  .ofList [denormals, simd, blocking, openmp false, openmp true, mpi]

end Pass

end LoopLowering
