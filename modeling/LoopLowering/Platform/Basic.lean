/-
  Platforms: concrete pieces of hardware.

  A platform has a name, a place in the class hierarchy, a vector extension, and four numbers that the
  passes and the listings read.  Nothing is checked here; what a sensible platform looks like is the
  subject of `Platform.issues`.
-/
import LoopLowering.Platform.Class

namespace LoopLowering

/-- A vector extension of an instruction set. -/
inductive VectorUnit where
  /-- None: scalar code only. -/
  | generic
  | sse
  | avx
  | avx2
  | avx512
  | neon
  | altivec
  /-- An offloading device, whose vectors are implicit. -/
  | ptx
  deriving DecidableEq, Repr, Inhabited

namespace VectorUnit

/-- All vector extensions. -/
def all : List VectorUnit := [generic, sse, avx, avx2, avx512, neon, altivec, ptx]

/-- The name in definition files. -/
def name : VectorUnit → String
  | generic => "generic"
  | sse => "sse"
  | avx => "avx"
  | avx2 => "avx2"
  | avx512 => "avx512"
  | neon => "neon"
  | altivec => "altivec"
  | ptx => "ptx"

/-- The name in descriptions and messages. -/
def title : VectorUnit → String
  | generic => "Generic"
  | sse => "Sse"
  | avx => "Avx"
  | avx2 => "Avx2"
  | avx512 => "Avx512"
  | neon => "Neon"
  | altivec => "Altivec"
  | ptx => "Ptx"

/-- The vector extension of a name. -/
def ofName? (name : String) : Option VectorUnit := all.find? fun v => v.name = name

@[simp] theorem ofName?_name (v : VectorUnit) : ofName? v.name = some v := by
  cases v <;> rfl

/-- Whether the extension has registers of its own. -/
def hasRegisters : VectorUnit → Bool
  | generic => false
  | ptx => false
  | _ => true

end VectorUnit

/-- A platform. -/
structure Platform where
  name : String
  /-- The place in the class hierarchy. -/
  family : PlatformClass
  vectorUnit : VectorUnit
  /-- Physical cores. -/
  cores : UInt32
  /-- Hardware threads of each core. -/
  threadsPerCore : UInt32
  /-- The width of a vector register in bytes, zero if there is none. -/
  vectorBytes : UInt32
  /-- The levels of blocking that apply unless the caller asks for a number. -/
  blockLevels : UInt32
  deriving DecidableEq, Repr, Inhabited

namespace Platform

/-- A scalar platform with one core and one level of blocking. -/
def new (name : String) (family : PlatformClass) (vectorUnit : VectorUnit) : Platform :=
  ⟨name, family, vectorUnit, 1, 1, 0, 1⟩

/-- The number of hardware threads, or the largest 32-bit number if there are more. -/
def logicalCores (p : Platform) : UInt32 :=
  UInt32.ofNat (min (p.cores.toNat * p.threadsPerCore.toNat) (UInt32.size - 1))

/-- Whether the platform is of class `tag` or of a class that specializes it. -/
def isA (p : Platform) (tag : String) : Bool := p.family.isA tag

end Platform

end LoopLowering
