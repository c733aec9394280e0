/-
  The built-in platforms, with the line that describes each in a listing.
-/
import LoopLowering.Platform.Basic

namespace LoopLowering.Platform

/-- A generic 64-bit processor. -/
def cpu64 : Platform := { new "cpu64" .cpu64 .generic with cores := 4 }

/-- Skylake-X. -/
def skx : Platform :=
  { new "skx" .intel64Skx .avx512 with cores := 24, threadsPerCore := 2, vectorBytes := 64 }

/-- Knights Landing. -/
def knl : Platform :=
  { new "knl" .intel64Knl .avx512 with
    cores := 68, threadsPerCore := 4, vectorBytes := 64, blockLevels := 2 }

/-- A generic ARM server. -/
def arm : Platform := { new "arm" .arm .neon with cores := 64, vectorBytes := 16 }

/-- POWER9. -/
def power9 : Platform :=
  { new "power9" .power .altivec with cores := 22, threadsPerCore := 4, vectorBytes := 16 }

/-- A generic graphics processor. -/
def nvidiaX : Platform := { new "nvidiaX" .nvidia .ptx with cores := 80 }

/-- The built-in platforms and their descriptions, in the order of listings. -/
def catalogue : List (Platform × String) :=
  [(cpu64, "Generic 64-bit CPU (scalar)"),
   (skx, "Intel Skylake-X (AVX-512, 24 cores)"),
   (knl, "Intel Knights Landing (AVX-512, 68 cores)"),
   (arm, "Generic AArch64 (NEON, 64 cores)"),
   (power9, "IBM POWER9 (AltiVec, 22 cores, SMT4)"),
   (nvidiaX, "Generic NVIDIA GPU")]

/-- The built-in platform of a name. -/
def builtin? (name : String) : Option Platform :=
  (catalogue.map Prod.fst).find? fun p => p.name = name

/-- The complaint about a name that no platform has. -/
def unknownMessage (name : String) : String := s!"unknown platform: '{name}'"

/-- Every platform of the catalogue is found under its own name. -/
example : ∀ entry ∈ catalogue, builtin? entry.1.name = some entry.1 := by decide +kernel

/-- Every platform of the catalogue has a well-formed class. -/
example : ∀ entry ∈ catalogue, entry.1.family.defect? = none := by decide +kernel

end LoopLowering.Platform
