/-
  Loop trees: the program that is specialized for a platform.

  A tree is made of nodes.  A callable holds regions, a region holds loops, loops nest and hold
  statements in the end; a list groups nodes and means nothing by itself.  Nothing enforces this
  nesting: a tree may hold any node anywhere, and every operation of this library accepts that.

  A node is its kind, its annotations and its children in program order.
-/
import LoopLowering.Tree.Property

namespace LoopLowering

/-- What a node represents. -/
inductive Kind where
  /-- A generated function, the usual root of a tree. -/
  | callable (name : String)
  /-- A named part of a callable. -/
  | region (name : String)
  /-- A loop over a dimension, with its trip count if that is known. -/
  | iteration (dim : String) (extent : Option UInt64)
  /-- A statement. -/
  | expression (expr : String)
  /-- A group of statements without a meaning of its own. -/
  | list
  deriving DecidableEq, Repr, Inhabited

namespace Kind

/-- The short form of a kind in listings. -/
def display : Kind → String
  | callable name => s!"Callable({name})"
  | region name => s!"Section({name})"
  | iteration dim (some extent) => s!"Iteration({dim}, {extent.toNat})"
  | iteration dim none => s!"Iteration({dim})"
  | expression expr => s!"Expression({expr})"
  | list => "List"

/-- Whether the kind is a loop. -/
def isIteration : Kind → Bool
  | iteration .. => true
  | _ => false

/-- Whether the kind is a callable. -/
def isCallable : Kind → Bool
  | callable _ => true
  | _ => false

/-- The dimension of a loop. -/
def dim? : Kind → Option String
  | iteration dim _ => some dim
  | _ => none

/-- The kind with the trip count set, if it is a loop; any other kind unchanged. -/
def withExtent (extent : UInt64) : Kind → Kind
  | iteration dim _ => iteration dim (some extent)
  | kind => kind

end Kind

/-- A node of a loop tree. -/
structure Node where
  /-- What the node is. -/
  kind : Kind
  /-- Its annotations. -/
  properties : PropertySet
  /-- Its children in program order. -/
  children : List Node
  deriving Inhabited

namespace Node

/-! ## Equality is decidable -/

mutual

/-- Decides whether two nodes are equal. -/
def decEq : (a b : Node) → Decidable (a = b)
  | ⟨k, p, cs⟩, ⟨l, q, ds⟩ =>
    if hk : k = l then
      if hp : p = q then
        match decEqAll cs ds with
        | isTrue h => isTrue (by subst hk hp h; rfl)
        | isFalse h => isFalse fun e => h (Node.mk.inj e).2.2
      else isFalse fun e => hp (Node.mk.inj e).2.1
    else isFalse fun e => hk (Node.mk.inj e).1

/-- Decides whether two lists of nodes are equal. -/
def decEqAll : (as bs : List Node) → Decidable (as = bs)
  | [], [] => isTrue rfl
  | [], _ :: _ => isFalse nofun
  | _ :: _, [] => isFalse nofun
  | a :: as, b :: bs =>
    match decEq a b with
    | isTrue h =>
      match decEqAll as bs with
      | isTrue hs => isTrue (by subst h hs; rfl)
      | isFalse hs => isFalse fun e => hs (List.cons.inj e).2
    | isFalse h => isFalse fun e => h (List.cons.inj e).1

end

instance : DecidableEq Node := decEq

/-! ## Making nodes -/

/-- A node without annotations or children. -/
def new (kind : Kind) : Node := ⟨kind, ∅, []⟩

/-- A callable with the given body. -/
def callable (name : String) (body : List Node) : Node := ⟨.callable name, ∅, body⟩

/-- A loop of unknown trip count with the given body. -/
def iteration (dim : String) (body : List Node) : Node := ⟨.iteration dim none, ∅, body⟩

/-- A statement. -/
def expression (expr : String) : Node := .new (.expression expr)

/-- A group of nodes. -/
def list (body : List Node) : Node := ⟨.list, ∅, body⟩

/-- The node with other children. -/
def withChildren (n : Node) (children : List Node) : Node := { n with children }

/-- The node with one annotation more. -/
def withProperty (n : Node) (p : Property) : Node := { n with properties := n.properties.insert p }

/-- The node with its trip count set, if it is a loop. -/
def withExtent (n : Node) (extent : UInt64) : Node := { n with kind := n.kind.withExtent extent }

/-! ## Looking at nodes -/

/-- Whether the node is a loop. -/
def isIteration (n : Node) : Bool := n.kind.isIteration

/-- Whether the node carries the annotation. -/
def hasProperty (n : Node) (p : Property) : Bool := n.properties.contains p

/-- The dimension of the node, if it is a loop. -/
def dim? (n : Node) : Option String := n.kind.dim?

theorem hasProperty_iff {n : Node} {p : Property} : n.hasProperty p = true ↔ p ∈ n.properties := by
  simp [hasProperty, SortedSet.contains]

end Node

end LoopLowering
