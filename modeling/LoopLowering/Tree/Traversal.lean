/-
  Walking over a loop tree.

  A VISITOR is shown a node and answers with the annotations the node shall have, so a walk can change
  nothing else: kinds, children and their order are out of its reach.  Visitors run in a monad, which
  gives them a state of their own (a counter, a record of the nodes shown) without the walks knowing.

    1.  `preorder`     — all nodes, each before its children;
    2.  `walk`         — visits exactly those, in that order;
    3.  `walkOutermost` — visits the loops that stand in no loop;
    4.  `walkInnermost` — visits the loops that hold no loop, after everything below them.
-/
import LoopLowering.Tree.Node

namespace LoopLowering.Node

/-! ## 1. Reading -/

mutual

/-- The nodes of a tree, each before its children. -/
def preorder : Node → List Node
  | ⟨kind, properties, children⟩ => ⟨kind, properties, children⟩ :: preorderAll children

/-- The nodes of a list of trees. -/
def preorderAll : List Node → List Node
  | [] => []
  | n :: rest => preorder n ++ preorderAll rest

end

mutual

/-- Whether a loop stands anywhere in the tree. -/
def containsIteration : Node → Bool
  | ⟨kind, _, children⟩ => kind.isIteration || anyContainsIteration children

/-- Whether a loop stands anywhere in a list of trees. -/
def anyContainsIteration : List Node → Bool
  | [] => false
  | n :: rest => containsIteration n || anyContainsIteration rest

end

/-- Whether no loop stands below the node. -/
def isInnermost (n : Node) : Bool := !anyContainsIteration n.children

/-! ## 2. Visiting every node -/

/-- What is asked of a visitor: the annotations that a node shall have. -/
abbrev Visitor (m : Type → Type) := Node → m PropertySet

variable {m : Type → Type} [Monad m]

mutual

/-- Visits every node, each before its children. -/
def walk (visit : Visitor m) : Node → m Node
  | ⟨kind, properties, children⟩ => do
    let properties ← visit ⟨kind, properties, children⟩
    let children ← walkAll visit children
    return ⟨kind, properties, children⟩

/-- Visits every node of a list of trees. -/
def walkAll (visit : Visitor m) : List Node → m (List Node)
  | [] => return []
  | n :: rest => do
    let n ← walk visit n
    let rest ← walkAll visit rest
    return n :: rest

end

/-! ## 3. Visiting the outermost loops -/

mutual

/-- Visits the loops that have no loop above them; what is below them is left alone. -/
def walkOutermost (visit : Visitor m) : Node → m Node
  | ⟨kind, properties, children⟩ => do
    if kind.isIteration then
      let properties ← visit ⟨kind, properties, children⟩
      return ⟨kind, properties, children⟩
    else
      let children ← walkOutermostAll visit children
      return ⟨kind, properties, children⟩

/-- Visits the outermost loops of a list of trees. -/
def walkOutermostAll (visit : Visitor m) : List Node → m (List Node)
  | [] => return []
  | n :: rest => do
    let n ← walkOutermost visit n
    let rest ← walkOutermostAll visit rest
    return n :: rest

end

/-! ## 4. Visiting the innermost loops -/

mutual

/-- Visits the loops that have no loop below them, going through the children first. -/
def walkInnermost (visit : Visitor m) : Node → m Node
  | ⟨kind, properties, children⟩ => do
    let children ← walkInnermostAll visit children
    if kind.isIteration && !anyContainsIteration children then
      let properties ← visit ⟨kind, properties, children⟩
      return ⟨kind, properties, children⟩
    else
      return ⟨kind, properties, children⟩

/-- Visits the innermost loops of a list of trees. -/
def walkInnermostAll (visit : Visitor m) : List Node → m (List Node)
  | [] => return []
  | n :: rest => do
    let n ← walkInnermost visit n
    let rest ← walkInnermostAll visit rest
    return n :: rest

end

end LoopLowering.Node
