/-
  The compact text of a tree identifies the tree.

  1.  DIGESTS.  A digest is written with eight digits for each of its words, so nothing of it is lost
      (`hexDigest_eq_iff`).

  2.  TREES.  Two trees are ALIKE if they have the same kinds and the same sets of annotations all the way
      down, with the same number of children in the same order; alike trees are equal (`alike_iff_eq`).

  3.  TEXTS.  The JSON form of a tree gives the tree back if enough brackets may be opened, and a JSON
      value can be read from its compact text however deep it is.  So there is no limit to the height of
      the trees that are told apart by their texts (`compactText_inj`), although higher ones than 62 cannot be
      read from them.  Two trees with one fingerprint are then equal, or else their texts are two messages
      with one digest (`fingerprint_eq_iff`).
-/
import LoopLowering.Proofs.Tree.Text

namespace LoopLowering

/-! ## 1. Digests -/

namespace Digest.Sha256

/-- Numbers with the same hexadecimal digits, of which neither has more than `count`, are the same. -/
theorem eq_of_hexDigits {count m n : Nat} (hm : m >>> (4 * count) = 0) (hn : n >>> (4 * count) = 0)
    (h : ∀ i < count, m >>> (4 * i) % 16 = n >>> (4 * i) % 16) : m = n := by
  induction count generalizing m n with
  | zero => exact (show m = 0 from hm).trans (show n = 0 from hn).symm
  | succ count ih =>
    have last : m % 16 = n % 16 := h 0 (Nat.succ_pos count)
    have front : m >>> 4 = n >>> 4 := by
      have shifted (k i : Nat) : k >>> 4 >>> (4 * i) = k >>> (4 * (i + 1)) := by
        rw [← Nat.shiftRight_add, Nat.mul_succ, Nat.add_comm]
      refine ih ((shifted m count).trans hm) ((shifted n count).trans hn) fun i hi => ?_
      rw [shifted, shifted]
      exact h (i + 1) (Nat.succ_lt_succ hi)
    rw [Nat.shiftRight_eq_div_pow, Nat.shiftRight_eq_div_pow] at front
    omega

theorem hexWord_injective {v w : UInt32} (h : hexWord v = hexWord w) : v = w := by
  have chars : ∀ m n : Fin 16, m.val.digitChar = n.val.digitChar → m = n := by decide
  have shifts : ∀ i < 8, 4 * i ∈ [28, 24, 20, 16, 12, 8, 4, 0] := by decide
  have short (u : UInt32) : u.toNat >>> (4 * 8) = 0 := by
    rw [Nat.shiftRight_eq_div_pow]
    exact Nat.div_eq_of_lt u.toNat_lt
  refine UInt32.toNat_inj.1 (eq_of_hexDigits (short v) (short w) fun i hi => ?_)
  have same := List.map_inj_left.1 h (4 * i) (shifts i hi)
  exact congrArg Fin.val (chars ⟨_, Nat.mod_lt _ (by decide)⟩ ⟨_, Nat.mod_lt _ (by decide)⟩ same)

theorem flatMap_hexWord_injective {l m : List UInt32} (h : l.flatMap hexWord = m.flatMap hexWord) : l = m := by
  induction l generalizing m with
  | nil =>
    cases m with
    | nil => rfl
    | cons w m => exact absurd h.symm (List.cons_ne_nil _ _)
  | cons v l ih =>
    cases m with
    | nil => exact absurd h (List.cons_ne_nil _ _)
    | cons w m =>
      rw [List.flatMap_cons, List.flatMap_cons] at h
      obtain ⟨hword, hrest⟩ := List.append_inj h rfl
      rw [hexWord_injective hword, ih hrest]

/-- A written digest is the digest. -/
theorem hexDigest_eq_iff {s t : String} : hexDigest s = hexDigest t ↔ digest s.toUTF8 = digest t.toUTF8 := by
  rw [hexDigest, hexDigest, String.ofList_inj]
  exact ⟨flatMap_hexWord_injective, congrArg _⟩

end Digest.Sha256

theorem Json.compactText_injective {j k : Json} (h : j.compactText = k.compactText) : j = k := by
  have read := read?_compactText j
  rw [h, read?_compactText] at read
  exact (Option.some.inj read).symm

namespace Node

/-! ## 2. Trees -/

/-- Trees with the same kinds, the same annotations and the same order of children, all the way down. -/
inductive Alike : Node → Node → Prop
  | node {a b : Node} (kind : a.kind = b.kind) (properties : ∀ p, p ∈ a.properties ↔ p ∈ b.properties)
      (count : a.children.length = b.children.length)
      (children : ∀ (i : Nat) (c d : Node), a.children[i]? = some c → b.children[i]? = some d → Alike c d) :
      Alike a b

theorem Alike.refl (n : Node) : Alike n n := by
  induction n using induct with
  | node kind properties children ih =>
    refine .node rfl (fun _ => Iff.rfl) rfl fun i c d hc hd => ?_
    obtain rfl := Option.some.inj (hc.symm.trans hd)
    exact ih c (List.mem_of_getElem? hc)

theorem Alike.eq {a b : Node} (h : Alike a b) : a = b := by
  induction a using induct generalizing b with
  | node kind properties children ih =>
    obtain ⟨kind', properties', children'⟩ := b
    cases h with
    | node hkind hproperties hcount hchildren =>
      have same : children = children' := List.ext_getElem hcount fun i hi hi' =>
        ih children[i] (List.getElem_mem hi)
          (hchildren i _ _ (List.getElem?_eq_getElem hi) (List.getElem?_eq_getElem hi'))
      obtain rfl : kind = kind' := hkind
      obtain rfl : properties = properties' := SortedSet.ext hproperties
      rw [same]

theorem alike_iff_eq {a b : Node} : Alike a b ↔ a = b := by
  constructor
  · exact Alike.eq
  · rintro rfl
    exact Alike.refl a

/-! ## 3. Texts -/

/-- A tree is read from its JSON form if enough brackets may be opened, so the form tells the tree. -/
theorem json_injective {a b : Node} (h : a.json = b.json) : a = b := by
  have room : a.height + 1 ≤ max a.height b.height + 1 := Nat.succ_le_succ (Nat.le_max_left ..)
  have room' : b.height + 1 ≤ max a.height b.height + 1 := Nat.succ_le_succ (Nat.le_max_right ..)
  have ha := ofJson?_json a (max a.height b.height + 1)
  have hb := ofJson?_json b (max a.height b.height + 1)
  rw [if_pos room, h, hb, if_pos room'] at ha
  exact (Option.some.inj ha).symm

theorem compactText_inj {a b : Node} : a.compactText = b.compactText ↔ a = b :=
  ⟨fun h => json_injective (Json.compactText_injective h), congrArg _⟩

/-- **The bytes that are digested identify the tree**, whatever its height and its texts: they are the same
    for two trees exactly if these are alike.  Fingerprints of different trees differ, unless the bytes of
    the two are different messages with the same digest. -/
theorem fingerprint_eq_iff (a b : Node) :
    (a.compactText.toUTF8 = b.compactText.toUTF8 ↔ a = b) ∧ (a = b ↔ Alike a b) ∧
    (a.fingerprint = b.fingerprint ↔ a = b ∨
      (a.compactText.toUTF8 ≠ b.compactText.toUTF8 ∧
        Digest.Sha256.digest a.compactText.toUTF8 = Digest.Sha256.digest b.compactText.toUTF8)) := by
  have bytes : a.compactText.toUTF8 = b.compactText.toUTF8 ↔ a = b :=
    String.toByteArray_inj.trans compactText_inj
  refine ⟨bytes, alike_iff_eq.symm, ?_⟩
  rw [fingerprint, fingerprint, Digest.Sha256.hexDigest_eq_iff]
  by_cases same : a = b
  · rw [same]
    exact ⟨fun _ => Or.inl rfl, fun _ => rfl⟩
  · have differ : a.compactText.toUTF8 ≠ b.compactText.toUTF8 := fun h => same (bytes.1 h)
    exact ⟨fun h => Or.inr ⟨differ, h⟩, fun h => (h.resolve_left same).2⟩

end Node

end LoopLowering
