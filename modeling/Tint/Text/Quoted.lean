import Tint.Unicode.Printable

/-!
# Quoted text

A text is shown between quotation marks, with every character that does not show as itself
escaped. The common controls have escapes of one letter; others are written by their code.
-/

namespace Tint.Text

/-- The code of a character in lower-case hexadecimal digits, in braces. -/
def codeEscape (c : Char) : List Char :=
  ['\\', 'u', '\x7b'] ++ Nat.toDigits 16 c.toNat ++ ['\x7d']

/-- A character as it stands between quotation marks. -/
def escape (c : Char) : List Char :=
  if c = '\x00' then ['\\', '0']
  else if c = '\t' then ['\\', 't']
  else if c = '\n' then ['\\', 'n']
  else if c = '\r' then ['\\', 'r']
  else if c = '"' then ['\\', '"']
  else if c = '\\' then ['\\', '\\']
  else if Unicode.standsAlone c then [c]
  else codeEscape c

/-- A text between quotation marks. -/
def quoted (s : String) : String := String.ofList ('"' :: s.toList.flatMap escape ++ ['"'])

end Tint.Text
