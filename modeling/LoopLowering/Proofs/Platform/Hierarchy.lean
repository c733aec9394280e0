/-
  The hierarchy of classes.

  That a class specializes another means no more than that the tag of the other is on its chain of ancestors.  Of
  classes with arbitrary chains this is no order; what makes it one is how classes come about.

  1.  DERIVING.  A derived class has one more ancestor than its parent, itself, and passes the check exactly if
      its tag is new to a chain that could be checked itself (`validate_derive_iff`).

  2.  GROWTH.  A family grows from the universal class by deriving: each time from any member, with a tag that no
      member has (`Grown`).

  3.  CHAINS.  Growth keeps three things (`Lineal`): all chains are well formed, tags tell members apart, and each
      end of a chain is the chain of a member.  The last is what a new class adds to: an end of its
      chain is all of it, or an end of its parent's chain (`Lineal.derive`).

  4.  ORDER.  So the member of a tag that is on a chain has the rest of that chain for its own, and a member
      specializes another exactly if the chain of the other is an end of its chain
      (`Lineal.specializes_iff`).  The laws of the order are those of the ends of a list
      (`hierarchy_of_grown`).
-/
import LoopLowering.Platform.Class
import Mathlib.Data.List.Infix

namespace LoopLowering.PlatformClass

/-! ## 1. Deriving -/

/-- **When a derived class passes the check**, whatever its parent is. -/
theorem validate_derive_iff (tag : String) (parent : PlatformClass) :
    (derive tag parent).validate = .ok () ↔
      (parent.lineage ≠ [] ∧ parent.lineage.getLast? = some rootTag ∧ parent.lineage.Nodup ∧
          tag ∉ parent.lineage) ∨
        (parent.lineage = [] ∧ tag = rootTag) := by
  have chain : (derive tag parent).lineage = tag :: parent.lineage := rfl
  rw [validate_eq_ok_iff, chain, List.nodup_cons]
  cases parent.lineage with
  | nil =>
    constructor
    · rintro ⟨-, ends, -⟩
      exact .inr ⟨rfl, Option.some.inj ends⟩
    · rintro (⟨nonempty, -⟩ | ⟨-, rfl⟩)
      · exact absurd rfl nonempty
      · exact ⟨rfl, rfl, List.not_mem_nil, List.nodup_nil⟩
  | cons first rest =>
    rw [List.getLast?_cons_cons]
    constructor
    · rintro ⟨-, ends, new, nodup⟩
      exact .inl ⟨List.cons_ne_nil first rest, ends, nodup, new⟩
    · rintro (⟨-, ends, nodup, new⟩ | ⟨empty, -⟩)
      · exact ⟨rfl, ends, new, nodup⟩
      · cases empty

/-! ## 2. Growth -/

/-- The families of classes that grow from the universal class. -/
inductive Grown : List PlatformClass → Prop
  | root : Grown [root]
  /-- Any member can be specialized under a tag that is new to the family. -/
  | derive {family : List PlatformClass} (grown : Grown family) (tag : String) (parent : PlatformClass)
      (member : parent ∈ family) (new : ∀ c ∈ family, c.tag ≠ tag) : Grown (derive tag parent :: family)

/-- The universal class stays a member. -/
theorem root_mem_of_grown {family : List PlatformClass} (grown : Grown family) : root ∈ family := by
  induction grown with
  | root => exact List.mem_singleton_self _
  | derive _ _ _ _ _ ih => exact List.mem_cons_of_mem _ ih

/-- The classes that are always known are such a family, grown in the order in which they are listed. -/
theorem grown_builtin : Grown builtin.reverse :=
  Grown.root
    |>.derive "cpu64" root (by decide) (by decide)
    |>.derive "intel64" cpu64 (by decide) (by decide)
    |>.derive "intel64-skx" intel64 (by decide) (by decide)
    |>.derive "intel64-knl" intel64 (by decide) (by decide)
    |>.derive "arm" cpu64 (by decide) (by decide)
    |>.derive "power" cpu64 (by decide) (by decide)
    |>.derive "device" root (by decide) (by decide)
    |>.derive "nvidia" device (by decide) (by decide)

/-! ## 3. Chains -/

/-- What holds of a family however far it has grown. -/
structure Lineal (family : List PlatformClass) : Prop where
  /-- Every member passes the check. -/
  sound : ∀ c ∈ family, c.validate = .ok ()
  /-- No two members have the same tag. -/
  distinct : ∀ c ∈ family, ∀ d ∈ family, c.tag = d.tag → c = d
  /-- Each end of the chain of a member is the chain of a member. -/
  closed : ∀ c ∈ family, ∀ chain, chain ≠ [] → chain <:+ c.lineage → ∃ d ∈ family, d.lineage = chain

theorem lineal_root : Lineal [root] where
  sound c hc := by
    rw [List.mem_singleton.1 hc]
    decide
  distinct c hc d hd _ := (List.mem_singleton.1 hc).trans (List.mem_singleton.1 hd).symm
  closed c hc chain nonempty ends := by
    rw [List.mem_singleton.1 hc] at ends
    rcases List.suffix_cons_iff.1 ends with whole | ends
    · exact ⟨_, List.mem_singleton_self _, whole.symm⟩
    · exact absurd (List.suffix_nil.1 ends) nonempty

namespace Lineal

variable {family : List PlatformClass} {c : PlatformClass}

/-- The tag of a member heads its chain. -/
theorem head (lineal : Lineal family) (hc : c ∈ family) : ∃ above, c.lineage = c.tag :: above := by
  have starts := (validate_eq_ok_iff.1 (lineal.sound c hc)).1
  exact ⟨c.lineage.tail, List.eq_cons_of_mem_head? starts⟩

/-- A tag on the chain of a member is that of a member, whose chain is the rest of it from there. -/
theorem exists_of_mem_lineage (lineal : Lineal family) (hc : c ∈ family) {tag : String} (on : tag ∈ c.lineage) :
    ∃ d ∈ family, d.tag = tag ∧ d.lineage <:+ c.lineage := by
  obtain ⟨below, above, split⟩ := List.append_of_mem on
  have ends : tag :: above <:+ c.lineage := ⟨below, split.symm⟩
  obtain ⟨d, hd, chain⟩ := lineal.closed c hc _ (List.cons_ne_nil tag above) ends
  obtain ⟨above', own⟩ := lineal.head hd
  have same : d.tag = tag := by
    rw [own] at chain
    exact (List.cons.inj chain).1
  exact ⟨d, hd, same, chain ▸ ends⟩

/-- A new tag is on no chain yet. -/
theorem not_mem_lineage (lineal : Lineal family) (hc : c ∈ family) {tag : String}
    (new : ∀ d ∈ family, d.tag ≠ tag) : tag ∉ c.lineage := by
  intro on
  obtain ⟨d, hd, same, -⟩ := lineal.exists_of_mem_lineage hc on
  exact new d hd same

/-- Growing keeps a family lineal. -/
theorem derive (lineal : Lineal family) {tag : String} {parent : PlatformClass} (member : parent ∈ family)
    (new : ∀ c ∈ family, c.tag ≠ tag) : Lineal (derive tag parent :: family) where
  sound := by
    have valid := lineal.sound parent member
    obtain ⟨-, ends, nodup⟩ := validate_eq_ok_iff.1 valid
    have passes := (validate_derive_iff tag parent).2
      (.inl ⟨lineage_ne_nil valid, ends, nodup, lineal.not_mem_lineage member new⟩)
    exact List.forall_mem_cons.2 ⟨passes, lineal.sound⟩
  distinct := by
    intro c hc d hd same
    rcases List.mem_cons.1 hc with rfl | hc
    · rcases List.mem_cons.1 hd with rfl | hd
      · rfl
      · exact absurd same.symm (new d hd)
    · rcases List.mem_cons.1 hd with rfl | hd
      · exact absurd same (new c hc)
      · exact lineal.distinct c hc d hd same
  closed := by
    intro c hc chain nonempty ends
    rcases List.mem_cons.1 hc with rfl | hc
    · -- All of the chain, or an end of that of the parent.
      rcases List.suffix_cons_iff.1 ends with whole | ends
      · exact ⟨_, List.mem_cons_self, whole.symm⟩
      · obtain ⟨d, hd, same⟩ := lineal.closed parent member chain nonempty ends
        exact ⟨d, List.mem_cons_of_mem _ hd, same⟩
    · obtain ⟨d, hd, same⟩ := lineal.closed c hc chain nonempty ends
      exact ⟨d, List.mem_cons_of_mem _ hd, same⟩

end Lineal

/-- However a family has grown, it is lineal. -/
theorem Grown.lineal {family : List PlatformClass} (grown : Grown family) : Lineal family := by
  induction grown with
  | root => exact lineal_root
  | derive _ _ _ member new ih => exact ih.derive member new

/-! ## 4. Order -/

variable {family : List PlatformClass} {c d e : PlatformClass}

/-- **A member specializes another exactly if the chain of the other is an end of its own.** -/
theorem Lineal.specializes_iff (lineal : Lineal family) (hc : c ∈ family) (hd : d ∈ family) :
    c.specializes d = true ↔ d.lineage <:+ c.lineage := by
  rw [specializes, isA_iff]
  constructor
  · intro on
    obtain ⟨d', hd', same, ends⟩ := lineal.exists_of_mem_lineage hc on
    rwa [lineal.distinct d' hd' d hd same] at ends
  · intro ends
    obtain ⟨above, own⟩ := lineal.head hd
    have first : d.tag ∈ d.lineage := by
      rw [own]
      exact List.mem_cons_self
    exact ends.mem first

/-- Every class that passes the check specializes the universal class. -/
theorem specializes_root (valid : c.validate = .ok ()) : c.specializes root = true := by
  obtain ⟨-, ends, -⟩ := validate_eq_ok_iff.1 valid
  exact isA_iff.2 (List.mem_of_getLast? ends)

/-- Classes that are ordered by specialization, each below the chain of its ancestors. -/
structure IsHierarchy (family : List PlatformClass) : Prop where
  /-- Every member passes the check. -/
  valid : ∀ c ∈ family, c.validate = .ok ()
  refl : ∀ c ∈ family, c.specializes c = true
  antisymm : ∀ c ∈ family, ∀ d ∈ family, c.specializes d = true → d.specializes c = true → c = d
  trans : ∀ c ∈ family, ∀ d ∈ family, ∀ e ∈ family, c.specializes d = true → d.specializes e = true →
    c.specializes e = true
  /-- The universal class is a member, and all members specialize it. -/
  greatest : root ∈ family ∧ ∀ c ∈ family, c.specializes root = true
  /-- Of two members that a third specializes one specializes the other. -/
  comparable : ∀ c ∈ family, ∀ d ∈ family, ∀ e ∈ family, e.specializes c = true → e.specializes d = true →
    c.specializes d = true ∨ d.specializes c = true

theorem isHierarchy_of_lineal (lineal : Lineal family) (member : root ∈ family) : IsHierarchy family where
  valid := lineal.sound
  refl c hc := (lineal.specializes_iff hc hc).2 (List.suffix_refl _)
  antisymm c hc d hd below above := by
    have up := (lineal.specializes_iff hc hd).1 below
    have down := (lineal.specializes_iff hd hc).1 above
    have chains : c.lineage = d.lineage := down.eq_of_length (Nat.le_antisymm down.length_le up.length_le)
    obtain ⟨_, own⟩ := lineal.head hc
    obtain ⟨_, own'⟩ := lineal.head hd
    rw [own, own'] at chains
    exact lineal.distinct c hc d hd (List.cons.inj chains).1
  trans c hc d hd e he below above := by
    have first := (lineal.specializes_iff hc hd).1 below
    have next := (lineal.specializes_iff hd he).1 above
    exact (lineal.specializes_iff hc he).2 (next.trans first)
  greatest := ⟨member, fun c hc => specializes_root (lineal.sound c hc)⟩
  comparable c hc d hd e he below below' := by
    have ends := (lineal.specializes_iff he hc).1 below
    have ends' := (lineal.specializes_iff he hd).1 below'
    rcases List.suffix_or_suffix_of_suffix ends ends' with up | down
    · exact .inr ((lineal.specializes_iff hd hc).2 up)
    · exact .inl ((lineal.specializes_iff hc hd).2 down)

/-- **Classes form a hierarchy of single inheritance.**  However a family grows from the universal class, all
    its members pass the check, and specialization orders them with the universal class on top and the
    ancestors of each member in a row.  A class derived from any other, sound or not, passes the check exactly
    if its tag is new to a chain that ends at the universal class and has no repetition, or if it is the
    universal class itself on an empty chain. -/
theorem hierarchy_of_grown :
    (∀ family, Grown family → IsHierarchy family) ∧
    ∀ (tag : String) (parent : PlatformClass), (derive tag parent).validate = .ok () ↔
      (parent.lineage ≠ [] ∧ parent.lineage.getLast? = some rootTag ∧ parent.lineage.Nodup ∧
          tag ∉ parent.lineage) ∨
        (parent.lineage = [] ∧ tag = rootTag) := by
  refine ⟨fun family grown => ?_, validate_derive_iff⟩
  exact isHierarchy_of_lineal grown.lineal (root_mem_of_grown grown)

/-- The classes that are always known, and the class of a site below one of them. -/
theorem hierarchy_of_grown_builtin :
    Grown builtin.reverse ∧ IsHierarchy builtin.reverse ∧ (derive "intel64-spr" intel64).validate = .ok () :=
  ⟨grown_builtin, hierarchy_of_grown.1 _ grown_builtin,
    (hierarchy_of_grown.2 "intel64-spr" intel64).2 (.inl (by decide))⟩

end LoopLowering.PlatformClass
