/-
  Passes: named rewriting steps, and libraries of them.

  1.  What is rewritten is a TRANSLATION UNIT: a loop tree, and the headers that the code generated from
      it must include.
  2.  A pass reads the options and the platform, and either gives the rewritten unit or fails with a
      message of its own.  It does not see the timing ledger.
  3.  A LIBRARY files passes by name.  Filing a pass under a name that is taken replaces the earlier pass
      in its place, so names stay distinct and keep the order of their first use.
-/
import LoopLowering.Tree.Node
import LoopLowering.Options.Basic

namespace LoopLowering

/-! ## 1. Translation units -/

/-- A loop tree with the headers its code needs. -/
structure TranslationUnit where
  root : Node
  includes : SortedSet String := ∅
  deriving DecidableEq, Inhabited

/-- The unit with one header more. -/
def TranslationUnit.addInclude (u : TranslationUnit) (header : String) : TranslationUnit :=
  { u with includes := u.includes.insert header }

/-! ## 2. Passes -/

/-- What a pass may read besides the unit. -/
structure Pass.Context where
  options : Options
  platform : Platform
  deriving DecidableEq

/-- Why a pass failed, in its own words. -/
structure Pass.Failure where
  message : String
  deriving DecidableEq, Repr

/-- A named rewriting step. -/
structure Pass where
  name : String
  run : Pass.Context → TranslationUnit → Except Pass.Failure TranslationUnit

/-! ## 3. Libraries -/

/-- Passes filed by name. -/
structure Pass.Library where
  passes : List Pass := []

/-- A pass that a platform's library does not have. -/
structure UnknownPass where
  name : String
  platform : String
  deriving DecidableEq, Repr

/-- The complaint about an unknown pass. -/
def UnknownPass.message (e : UnknownPass) : String :=
  s!"unknown pass `{e.name}` requested for platform `{e.platform}`"

namespace Pass.Library

/-- The names in the order of their first use. -/
def names (lib : Library) : List String := lib.passes.map Pass.name

/-- The pass filed under a name. -/
def get? (lib : Library) (name : String) : Option Pass := lib.passes.find? fun p => p.name = name

/-- Files a pass, in place of one of the same name. -/
def register (lib : Library) (pass : Pass) : Library :=
  if pass.name ∈ lib.names then
    ⟨lib.passes.map fun p => if p.name = pass.name then pass else p⟩
  else ⟨lib.passes ++ [pass]⟩

/-- The library of the passes of a list, filed one after the other. -/
def ofList (passes : List Pass) : Library := passes.foldl register {}

/-- Looks up every name of a sequence; the first that is missing is an error. -/
def resolve (lib : Library) (platform : Platform) : List String → Except UnknownPass (List Pass)
  | [] => .ok []
  | name :: rest =>
    match lib.get? name with
    | none => .error ⟨name, platform.name⟩
    | some pass => (lib.resolve platform rest).map (pass :: ·)

end Pass.Library

end LoopLowering
