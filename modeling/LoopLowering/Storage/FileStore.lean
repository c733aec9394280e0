/-
  Where files are kept.

  This library reads and writes files only through a `FileStore`: the few questions it asks about paths,
  each answered in a monad of the store's own.  A disk is one store; a function from paths to texts is
  another, and over the identity monad it makes everything built on stores an ordinary function.

  A failure comes with a REASON, the store's own wording.
-/

namespace LoopLowering

/-- A place that files are read from and written to. -/
structure FileStore (m : Type → Type) where
  /-- Whether there is anything at a path. -/
  isPresent : String → m Bool
  /-- Whether there is a file at a path. -/
  isFile : String → m Bool
  /-- Whether there is a directory at a path. -/
  isDirectory : String → m Bool
  /-- The text of a file, or the reason why it cannot be had. -/
  read : String → m (Except String String)
  /-- The names in a directory in any order, or the reason why they cannot be had. -/
  names : String → m (Except String (List String))
  /-- Puts a text at a path. -/
  write : String → String → m (Except String Unit)

namespace FileStore

/-- The path of a name in a directory. -/
def join (directory name : String) : String :=
  if directory = "" ∨ directory.toList.getLast? = some '/' then directory ++ name
  else directory ++ "/" ++ name

example : join "a" "b" = "a/b" ∧ join "a/" "b" = "a/b" ∧ join "" "b" = "b" := by decide +kernel

end FileStore

end LoopLowering
