import Tint.Json.Value

/-!
# Reading JSON

`Value.read?` reads a text that is one JSON value with white space around it. A number does not
start with a superfluous zero, a text holds no control characters, and nothing follows the value.
-/

namespace Tint.Json

/-! ## White space and words -/

/-- White space between the parts of a value. -/
def isSpace (c : Char) : Bool := c = ' ' || c = '\n' || c = '\t' || c = '\r'

/-- The text after the white space that it starts with. -/
def skip (cs : List Char) : List Char := cs.dropWhile isSpace

/-- The text after a word, if it starts with it. -/
def after? (word : List Char) (cs : List Char) : Option (List Char) :=
  if word.isPrefixOf cs then some (cs.drop word.length) else none

/-! ## Texts -/

/-- A part of a text: a character as it is or by its escape, or a 16-bit code. -/
inductive Part where
  | char (c : Char)
  | code (n : Nat)
deriving DecidableEq

/-- The value of a hexadecimal digit. -/
def hexDigit? (c : Char) : Option Nat :=
  if c.isDigit then some (c.toNat - '0'.toNat)
  else if 'a' ≤ c && c ≤ 'f' then some (c.toNat - 'a'.toNat + 10)
  else if 'A' ≤ c && c ≤ 'F' then some (c.toNat - 'A'.toNat + 10)
  else none

/-- The value of four hexadecimal digits. -/
def hexCode? (a b c d : Char) : Option Nat := do
  return (← hexDigit? a) * 4096 + (← hexDigit? b) * 256 + (← hexDigit? c) * 16 + (← hexDigit? d)

/-- The character that an escape of one letter stands for. -/
def escaped? : Char → Option Char
  | '"' => some '"'
  | '\\' => some '\\'
  | '/' => some '/'
  | 'b' => some '\x08'
  | 'f' => some '\x0c'
  | 'n' => some '\n'
  | 'r' => some '\r'
  | 't' => some '\t'
  | _ => none

/-- The parts of a text up to its closing quotation mark, and what follows it. -/
def readParts : List Char → Option (List Part × List Char)
  | [] => none
  | '"' :: rest => some ([], rest)
  | '\\' :: 'u' :: a :: b :: c :: d :: rest => do
    let n ← hexCode? a b c d
    let (parts, rest) ← readParts rest
    return (.code n :: parts, rest)
  | '\\' :: c :: rest => do
    let x ← escaped? c
    let (parts, rest) ← readParts rest
    return (.char x :: parts, rest)
  | c :: rest =>
    if c.toNat < 32 || c = '\\' then none
    else do
      let (parts, rest) ← readParts rest
      return (.char c :: parts, rest)

/-- Whether a code is the first half of a surrogate pair. -/
def isHigh (n : Nat) : Bool := 0xD800 ≤ n && n < 0xDC00

/-- Whether a code is the second half of a surrogate pair. -/
def isLow (n : Nat) : Bool := 0xDC00 ≤ n && n < 0xE000

/-- The characters of the parts, surrogate pairs put together; nothing if half of one is alone. -/
def joinParts : List Part → Option (List Char)
  | [] => some []
  | .char c :: rest => (joinParts rest).map (c :: ·)
  | .code n :: .code m :: rest =>
    if isHigh n && isLow m then
      (joinParts rest).map (Char.ofNat (0x10000 + (n - 0xD800) * 1024 + (m - 0xDC00)) :: ·)
    else if isHigh n || isLow n then none
    else (joinParts (.code m :: rest)).map (Char.ofNat n :: ·)
  | .code n :: rest =>
    if isHigh n || isLow n then none else (joinParts rest).map (Char.ofNat n :: ·)

/-- A text after its opening quotation mark. -/
def readText (cs : List Char) : Option (Option String × List Char) :=
  (readParts cs).map fun (parts, rest) => ((joinParts parts).map String.ofList, rest)

/-! ## Numbers -/

/-- The digits that a text starts with, of which there must be one. -/
def readDigits (cs : List Char) : Option (List Char × List Char) :=
  match cs.span Char.isDigit with
  | ([], _) => none
  | (digits, rest) => some (digits, rest)

/-- The digits before the point: no zero comes before another. -/
def readWhole (cs : List Char) : Option (List Char × List Char) := do
  let (digits, rest) ← readDigits cs
  match digits with
  | '0' :: _ :: _ => none
  | _ => return (digits, rest)

/-- The digits after the point, if there is one. -/
def readFraction : List Char → Option (Option (List Char) × List Char)
  | '.' :: rest => (readDigits rest).map fun (digits, rest) => (some digits, rest)
  | rest => some (none, rest)

/-- The exponent after its letter. -/
def readExponentValue (cs : List Char) : Option (Int × List Char) :=
  match cs with
  | '+' :: rest => (readDigits rest).map fun (digits, rest) => ((decimalValue digits : Int), rest)
  | '-' :: rest => (readDigits rest).map fun (digits, rest) => (-(decimalValue digits : Int), rest)
  | rest => (readDigits rest).map fun (digits, rest) => ((decimalValue digits : Int), rest)

/-- The exponent, if there is one. -/
def readExponent : List Char → Option (Option Int × List Char)
  | 'e' :: rest => (readExponentValue rest).map fun (n, rest) => (some n, rest)
  | 'E' :: rest => (readExponentValue rest).map fun (n, rest) => (some n, rest)
  | rest => some (none, rest)

/-- A number. -/
def readNumber (cs : List Char) : Option (Number × List Char) := do
  let (negative, cs) := match cs with
    | '-' :: rest => (true, rest)
    | _ => (false, cs)
  let (whole, cs) ← readWhole cs
  let (fraction, cs) ← readFraction cs
  let (exponent, cs) ← readExponent cs
  return ({ negative, whole, fraction, exponent }, cs)

/-! ## Values -/

mutual

/-- A value that the text starts with; white space before it has been skipped. -/
def readValue : (budget : Nat) → List Char → Option (Value × List Char)
  | 0, _ => none
  | _, [] => none
  | budget + 1, c :: cs =>
    if c = '"' then (readText cs).map fun (s, rest) => (.string s, rest)
    else if c = '[' then
      match skip cs with
      | ']' :: rest => some (.array [], rest)
      | cs => (readItems budget cs).map fun (items, rest) => (.array items, rest)
    else if c = '\x7b' then
      match skip cs with
      | '\x7d' :: rest => some (.object [], rest)
      | cs => (readMembers budget cs).map fun (members, rest) => (.object members, rest)
    else if c = '-' || c.isDigit then
      (readNumber (c :: cs)).map fun (n, rest) => (.number n, rest)
    else if c = 'n' then (after? ['u', 'l', 'l'] cs).map fun rest => (.null, rest)
    else if c = 't' then (after? ['r', 'u', 'e'] cs).map fun rest => (.bool true, rest)
    else if c = 'f' then (after? ['a', 'l', 's', 'e'] cs).map fun rest => (.bool false, rest)
    else none

/-- The items of an array up to its closing bracket. -/
def readItems : (budget : Nat) → List Char → Option (List Value × List Char)
  | 0, _ => none
  | budget + 1, cs => do
    let (v, cs) ← readValue budget cs
    match skip cs with
    | ']' :: rest => return ([v], rest)
    | ',' :: rest =>
      let (vs, rest) ← readItems budget (skip rest)
      return (v :: vs, rest)
    | _ => none

/-- The members of an object up to its closing brace. -/
def readMembers : (budget : Nat) → List Char → Option (List (Option String × Value) × List Char)
  | 0, _ => none
  | budget + 1, cs => do
    let cs ← after? ['"'] cs
    let (name, cs) ← readText cs
    let cs ← after? [':'] (skip cs)
    let (v, cs) ← readValue budget (skip cs)
    match skip cs with
    | '\x7d' :: rest => return ([(name, v)], rest)
    | ',' :: rest =>
      let (members, rest) ← readMembers budget (skip rest)
      return ((name, v) :: members, rest)
    | _ => none

end

/-- The value that a text is. -/
def Value.read? (source : String) : Option Value := do
  let cs := source.toList
  let (v, rest) ← readValue (cs.length + 1) (skip cs)
  if (skip rest).isEmpty then some v else none

end Tint.Json
