import Tint.Json.Value

/-!
# Printing JSON

Values are printed over several lines, each level indented by two blanks. An array or object
without content stays on one line. In a text only quotation marks, backslashes and control
characters are escaped.
-/

namespace Tint.Json

/-! ## Texts -/

/-- Two hexadecimal digits for a control character. -/
def controlDigits (c : Char) : List Char :=
  [Nat.digitChar (c.toNat / 16), Nat.digitChar (c.toNat % 16)]

/-- A character as it stands in a text. -/
def escape (c : Char) : List Char :=
  if c = '"' then ['\\', '"']
  else if c = '\\' then ['\\', '\\']
  else if c = '\x08' then ['\\', 'b']
  else if c = '\x0c' then ['\\', 'f']
  else if c = '\n' then ['\\', 'n']
  else if c = '\r' then ['\\', 'r']
  else if c = '\t' then ['\\', 't']
  else if c.toNat < 32 then ['\\', 'u', '0', '0'] ++ controlDigits c
  else [c]

/-- A text between its quotation marks. -/
def printText (s : String) : List Char := '"' :: s.toList.flatMap escape ++ ['"']

/-! ## Values -/

/-- The start of a line at a level. -/
def newline (level : Nat) : List Char := '\n' :: List.replicate (2 * level) ' '

/-- A number as it is written; only integers are printed. -/
def printNumber (n : Number) : List Char := (if n.negative then ['-'] else []) ++ n.whole

mutual

/-- A value at a level; its first line is not indented. A text that is not Unicode has no printed
form and is left empty. -/
def print (level : Nat) : Value → List Char
  | .null => ['n', 'u', 'l', 'l']
  | .bool true => ['t', 'r', 'u', 'e']
  | .bool false => ['f', 'a', 'l', 's', 'e']
  | .number n => printNumber n
  | .string s => printText (s.getD "")
  | .array [] => ['[', ']']
  | .array (v :: vs) =>
    '[' :: newline (level + 1) ++ print (level + 1) v ++ printItems (level + 1) vs ++
      newline level ++ [']']
  | .object [] => ['\x7b', '\x7d']
  | .object ((k, v) :: ms) =>
    '\x7b' :: newline (level + 1) ++ printText (k.getD "") ++ [':', ' '] ++ print (level + 1) v ++
      printMembers (level + 1) ms ++ newline level ++ ['\x7d']

/-- The items of an array after the first. -/
def printItems (level : Nat) : List Value → List Char
  | [] => []
  | v :: vs => ',' :: newline level ++ print level v ++ printItems level vs

/-- The members of an object after the first. -/
def printMembers (level : Nat) : List (Option String × Value) → List Char
  | [] => []
  | (k, v) :: ms =>
    ',' :: newline level ++ printText (k.getD "") ++ [':', ' '] ++ print level v ++
      printMembers level ms

end

/-- The printed form of a value. -/
def Value.pretty (v : Value) : String := String.ofList (print 0 v)

end Tint.Json
