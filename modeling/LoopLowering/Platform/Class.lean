/-
  Platform classes: where a platform stands in the specialization hierarchy.

  A class has a tag and its LINEAGE, the chain of tags from the class itself up to the universal class
  `platform`.  The chain is stored in full, so nothing has to be searched when a platform is matched
  against classes: a platform is of a class when the class's tag is on the chain.

  A chain may come from a definition file, hence need not make sense.  `defect?` says what is wrong:

    1.  it must not be empty,
    2.  it must start at the class itself,
    3.  it must end at the universal class,
    4.  it must not name a class twice,

  and of two faults it reports the one that stands first in this list.
-/

namespace LoopLowering

/-- The tag of the class that every class descends from. -/
def rootTag : String := "platform"

/-- A class of platforms. -/
structure PlatformClass where
  /-- The name of the class. -/
  tag : String
  /-- The class and all that it specializes, most specific first. -/
  lineage : List String
  deriving DecidableEq, Repr, Inhabited

namespace PlatformClass

/-! ## Making classes -/

/-- The universal class. -/
def root : PlatformClass := ⟨rootTag, [rootTag]⟩

/-- A new class that specializes `parent`. -/
def derive (tag : String) (parent : PlatformClass) : PlatformClass := ⟨tag, tag :: parent.lineage⟩

/-- The text of a class: its lineage, each class below the next. -/
def display (c : PlatformClass) : String := " < ".intercalate c.lineage

/-! ## The order of classes -/

/-- Whether the class is `tag` or specializes it. -/
def isA (c : PlatformClass) (tag : String) : Bool := c.lineage.contains tag

/-- Whether the class is `other` or specializes it. -/
def specializes (c other : PlatformClass) : Bool := c.isA other.tag

theorem isA_iff {c : PlatformClass} {tag : String} : c.isA tag = true ↔ tag ∈ c.lineage := by
  simp [isA]

/-! ## Well-formed lineages -/

/-- What can be wrong with a lineage. -/
inductive Defect where
  /-- It has no element. -/
  | empty
  /-- It starts at another class. -/
  | startsElsewhere (first : String)
  /-- It does not end at the universal class. -/
  | unrooted
  /-- It names a class twice. -/
  | repeated (tag : String)
  deriving DecidableEq, Repr

/-- The wording of a defect. -/
def Defect.message : Defect → String
  | empty => "empty ancestor chain"
  | startsElsewhere first =>
    s!"ancestor chain starts at '{first}' instead of the class itself"
  | unrooted => s!"ancestor chain does not end at '{rootTag}'"
  | repeated tag => s!"'{tag}' appears twice in ancestor chain"

/-- The first element that occurs among `seen` or earlier in the list. -/
def firstRepeat? (seen : List String) : List String → Option String
  | [] => none
  | tag :: rest => if tag ∈ seen then some tag else firstRepeat? (tag :: seen) rest

/-- The first defect of the class's lineage. -/
def defect? (c : PlatformClass) : Option Defect :=
  match c.lineage with
  | [] => some .empty
  | first :: rest =>
    if first ≠ c.tag then some (.startsElsewhere first)
    else if (first :: rest).getLast? ≠ some rootTag then some .unrooted
    else (firstRepeat? [] (first :: rest)).map .repeated

theorem firstRepeat?_eq_none {seen tags : List String} :
    firstRepeat? seen tags = none ↔ tags.Nodup ∧ ∀ tag ∈ tags, tag ∉ seen := by
  induction tags generalizing seen with
  | nil => simp [firstRepeat?]
  | cons tag rest ih =>
    unfold firstRepeat?
    split
    · rename_i h
      simp [h]
    · rename_i h
      rw [ih]
      simp only [List.nodup_cons, List.mem_cons, not_or, forall_eq_or_imp]
      constructor
      · rintro ⟨hn, hs⟩
        exact ⟨⟨fun hm => (hs tag hm).1 rfl, hn⟩, h, fun x hx => (hs x hx).2⟩
      · rintro ⟨⟨ht, hn⟩, _, hs⟩
        exact ⟨hn, fun x hx => ⟨fun e => ht (e ▸ hx), hs x hx⟩⟩

/-- A lineage without defect starts at the class, ends at the universal class and has no repetition. -/
theorem defect?_eq_none {c : PlatformClass} :
    c.defect? = none ↔
      c.lineage.head? = some c.tag ∧ c.lineage.getLast? = some rootTag ∧ c.lineage.Nodup := by
  unfold defect?
  cases c.lineage with
  | nil => simp
  | cons first rest =>
    by_cases h : first = c.tag
    · subst h
      by_cases h' : (c.tag :: rest).getLast? = some rootTag
      · simp [h', firstRepeat?_eq_none]
      · simp [h']
    · simp [h]

/-- A class whose lineage has a defect. -/
structure Malformed where
  tag : String
  defect : Defect
  deriving DecidableEq, Repr

/-- The wording of the complaint about a malformed class. -/
def Malformed.message (m : Malformed) : String :=
  s!"malformed platform class '{m.tag}': {m.defect.message}"

/-- Accepts a class whose lineage has no defect. -/
def validate (c : PlatformClass) : Except Malformed Unit :=
  match c.defect? with
  | none => .ok ()
  | some defect => .error ⟨c.tag, defect⟩

theorem validate_eq_ok_iff {c : PlatformClass} :
    c.validate = .ok () ↔
      c.lineage.head? = some c.tag ∧ c.lineage.getLast? = some rootTag ∧ c.lineage.Nodup := by
  rw [← defect?_eq_none, validate]
  cases c.defect? with
  | none => exact iff_of_true rfl rfl
  | some defect => exact iff_of_false nofun nofun

theorem lineage_ne_nil {c : PlatformClass} (valid : c.validate = .ok ()) : c.lineage ≠ [] := by
  obtain ⟨starts, -, -⟩ := validate_eq_ok_iff.1 valid
  intro empty
  rw [empty] at starts
  cases starts

/-! ## Built-in classes -/

/-- Any 64-bit processor. -/
def cpu64 : PlatformClass := derive "cpu64" root

/-- 64-bit processors of the x86 family. -/
def intel64 : PlatformClass := derive "intel64" cpu64

/-- Skylake-X processors. -/
def intel64Skx : PlatformClass := derive "intel64-skx" intel64

/-- Knights Landing processors. -/
def intel64Knl : PlatformClass := derive "intel64-knl" intel64

/-- 64-bit ARM processors. -/
def arm : PlatformClass := derive "arm" cpu64

/-- POWER processors. -/
def power : PlatformClass := derive "power" cpu64

/-- Offloading devices. -/
def device : PlatformClass := derive "device" root

/-- NVIDIA devices. -/
def nvidia : PlatformClass := derive "nvidia" device

/-- The classes that are always known. -/
def builtin : List PlatformClass :=
  [root, cpu64, intel64, intel64Skx, intel64Knl, arm, power, device, nvidia]

/-- The built-in class with the given tag. -/
def builtin? (tag : String) : Option PlatformClass := builtin.find? fun c => c.tag = tag

end PlatformClass

end LoopLowering
