/-
  Texts in listings, quoted so that every character shows.

  A quote, a backslash and the common control characters have short escapes.  Any other character that
  would not be seen by itself, because it has no shape or because it attaches to the one before it, is
  written as its code point in hexadecimal.
-/
import LoopLowering.Text.Attached
import LoopLowering.Text.Shapeless

namespace LoopLowering.Text.Visible

/-- The characters that show a character. -/
def showChar (c : Char) : List Char :=
  if c = '"' ∨ c = '\\' then ['\\', c]
  else if c = '\x00' then ['\\', '0']
  else if c = '\t' then ['\\', 't']
  else if c = '\n' then ['\\', 'n']
  else if c = '\r' then ['\\', 'r']
  else if isShapeless c ∨ isAttached c then
    ['\\', 'u', '\x7b'] ++ Nat.toDigits 16 c.toNat ++ ['\x7d']
  else [c]

/-- The text between quotes. -/
def quote (s : String) : String := String.ofList ('"' :: s.toList.flatMap showChar ++ ['"'])

end LoopLowering.Text.Visible
