import Tint.Regex.Expr
import Tint.Unicode.Blank
import Tint.Unicode.Category
import Tint.Unicode.Property
import Tint.Unicode.Recent

/-!
# Reading regular expressions

`Expr.read?` reads the text of a pattern. Look-around and back-references are not part of the
language, and a brace, bracket or parenthesis always has its special meaning unless it is
escaped. Where the flag to ignore blanks is on, white space and comments may stand between any
two parts, inside a class too.

Every reader takes the input that is left and gives back what it read with the input after it.
The three that call each other (alternatives, a sequence, a class) take a budget, which the length
of the pattern bounds.
-/

namespace Tint.Regex

/-- What is left to read, and what has been settled so far. -/
structure Input where
  rest : List Char
  ignoreBlanks : Bool := false
  groups : Nat := 0
  names : List String := []

namespace Input

/-! ## Single characters -/

/-- The text after the blanks and comments that it starts with. -/
def dropBlanks (inComment : Bool) : List Char → List Char
  | [] => []
  | c :: cs =>
    if inComment then dropBlanks (c != '\n') cs
    else if Unicode.blank.mem c then dropBlanks false cs
    else if c = '#' then dropBlanks true cs
    else c :: cs

/-- Skip blanks and comments where they are ignored. -/
def skip (i : Input) : Input :=
  if i.ignoreBlanks then { i with rest := dropBlanks false i.rest } else i

/-- Go past one character. -/
def bump (i : Input) : Input := { i with rest := i.rest.tail }

/-- Go past one character and the blanks after it. -/
def next (i : Input) : Input := i.bump.skip

/-- The input after `text`, if that is what comes next. -/
def after? (i : Input) (text : String) : Option Input :=
  if text.toList.isPrefixOf i.rest then some { i with rest := i.rest.drop text.length } else none

/-- The character after the next one, ignored blanks left aside. -/
def peekSkipping (i : Input) : Option Char :=
  let later := i.rest.tail
  if i.ignoreBlanks then
    match later.dropWhile Unicode.blank.mem with
    | '#' :: cs => (cs.dropWhile Unicode.blank.mem).head?
    | cs => cs.head?
  else later.head?

end Input

/-! ## Escapes -/

/-- The characters with a special meaning somewhere in a pattern. -/
def isMeta (c : Char) : Bool :=
  ['\\', '.', '+', '*', '?', '(', ')', '|', '[', ']', '\x7b', '\x7d', '^', '$', '#', '&', '-',
    '~'].contains c

/-- Whether a backslash before the character only takes away a special meaning. -/
def isEscapable (c : Char) : Bool :=
  isMeta c || (decide (c.toNat < 128) && !c.isAlphanum && c != '<' && c != '>')

/-- The value of a hexadecimal digit. -/
def hexValue? (c : Char) : Option Nat :=
  if '0' ≤ c && c ≤ '9' then some (c.toNat - '0'.toNat)
  else if 'a' ≤ c && c ≤ 'f' then some (c.toNat - 'a'.toNat + 10)
  else if 'A' ≤ c && c ≤ 'F' then some (c.toNat - 'A'.toNat + 10)
  else none

/-- The character with this code point. -/
def charOfCode? (n : Nat) : Option Char :=
  if n < 0xD800 || (0xDFFF < n && n < 0x110000) then some (Char.ofNat n) else none

/-- `count` hexadecimal digits, the value of those before them being `value`. -/
def readHexDigits : (count : Nat) → (value : Nat) → Input → Option (Nat × Input)
  | 0, value, i => some (value, i)
  | count + 1, value, i => do
    let d ← hexValue? (← i.rest.head?)
    readHexDigits count (value * 16 + d) i.next

/-- Hexadecimal digits up to a closing brace; blanks among them are skipped where ignored. -/
def readHexBraced : (budget : Nat) → (value : Option Nat) → Input → Option (Nat × Input)
  | 0, _, _ => none
  | budget + 1, value, i =>
    match i.rest with
    | '\x7d' :: _ => value.map fun v => (v, i.next)
    | c :: _ => do
      let d ← hexValue? c
      readHexBraced budget (some (value.getD 0 * 16 + d)) i.next
    | [] => none

/-- A character by its code, after the `x`, `u` or `U` that says how many digits it has. -/
def readCode (digits : Nat) (i : Input) : Option (Char × Input) := do
  let (n, j) ←
    match i.rest with
    | '\x7b' :: _ => readHexBraced (i.rest.length + 1) none i.next
    | _ => readHexDigits digits 0 i
  return (← charOfCode? n, j)

/-- The text up to a closing brace; blanks in it are skipped where ignored. -/
def readBraced : (budget : Nat) → (done : List Char) → Input → Option (String × Input)
  | 0, _, _ => none
  | budget + 1, done, i =>
    match i.rest with
    | '\x7d' :: _ => some (String.ofList done.reverse, i.bump)
    | c :: _ => readBraced budget (c :: done) i.next
    | [] => none

/-- The text before and after the first place where `mark` stands. -/
def splitAtFirst (mark : List Char) (before : List Char) : List Char → Option (String × String)
  | [] => none
  | c :: cs =>
    if mark.isPrefixOf (c :: cs) then
      some (String.ofList before.reverse, String.ofList ((c :: cs).drop mark.length))
    else splitAtFirst mark (c :: before) cs

/-- A property, after the `p` or `P`: a letter, or a name and perhaps a value in braces. The flag
says whether it is negated by an unequal sign. -/
def readProperty (i : Input) : Option (PropertyName × Bool × Input) := do
  match i.rest with
  | '\x7b' :: _ =>
    let (name, j) ← readBraced (i.rest.length + 1) [] i.next
    let cs := name.toList
    match splitAtFirst ['!', '='] [] cs with
    | some (n, v) => return (.valued n v, true, j)
    | none =>
      match splitAtFirst [':'] [] cs with
      | some (n, v) => return (.valued n v, false, j)
      | none =>
        match splitAtFirst ['='] [] cs with
        | some (n, v) => return (.valued n v, false, j)
        | none => return (.simple name, false, j)
  | '\\' :: _ => none
  | c :: _ => return (.simple (String.singleton c), false, i.bump)
  | [] => none

/-- The letters and hyphens of a named assertion, up to a closing brace. -/
def readAssertionName : (budget : Nat) → (done : List Char) → Input → Option (String × Input)
  | 0, _, _ => none
  | budget + 1, done, i =>
    match i.rest with
    | '\x7d' :: _ => some (String.ofList done.reverse, i.bump)
    | c :: _ => if c.isAlpha || c = '-' then readAssertionName budget (c :: done) i.next else none
    | [] => none

/-- What follows the escape of a word boundary: a name in braces makes it one of four kinds. A
brace before anything but a letter or hyphen starts a repetition and is left alone. -/
def readBoundaryKind (i : Input) : Option (Assertion × Input) :=
  match i.rest with
  | '\x7b' :: _ => do
    let j := i.next
    let c ← j.rest.head?
    if c.isAlpha || c = '-' then
      let (name, k) ← readAssertionName (j.rest.length + 1) [] j
      match name with
      | "start" => return (.wordStart, k)
      | "end" => return (.wordEnd, k)
      | "start-half" => return (.wordStartHalf, k)
      | "end-half" => return (.wordEndHalf, k)
      | _ => none
    else return (.wordBoundary, i)
  | _ => some (.wordBoundary, i)

/-- An escape, from its backslash on. -/
def readEscape (i : Input) : Option (Expr × Input) :=
  match i.rest.tail with
  | [] => none
  | c :: rest =>
    let after : Input := { i with rest }
    let char (x : Char) : Option (Expr × Input) := some (.char x false, after)
    let coded (digits : Nat) : Option (Expr × Input) := do
      let start := after.skip
      let (x, j) ← readCode digits start
      return (.char x (digits == 2 && start.rest.head? != some '\x7b'), j)
    let property (negated : Bool) : Option (Expr × Input) := do
      let (name, unequal, j) ← readProperty after.skip
      return (.property name (negated != unequal), j)
    match c with
    | 'x' => coded 2
    | 'u' => coded 4
    | 'U' => coded 8
    | 'p' => property false
    | 'P' => property true
    | 'd' => some (.shorthand .digit false, after)
    | 'D' => some (.shorthand .digit true, after)
    | 's' => some (.shorthand .blank false, after)
    | 'S' => some (.shorthand .blank true, after)
    | 'w' => some (.shorthand .word false, after)
    | 'W' => some (.shorthand .word true, after)
    | 'a' => char '\x07'
    | 'f' => char '\x0c'
    | 't' => char '\t'
    | 'n' => char '\n'
    | 'r' => char '\r'
    | 'v' => char '\x0b'
    | 'A' => some (.assertion .textStart, after)
    | 'z' => some (.assertion .textEnd, after)
    | 'b' => (readBoundaryKind after).map fun p => (.assertion p.1, p.2)
    | 'B' => some (.assertion .notWordBoundary, after)
    | '<' => some (.assertion .wordStart, after)
    | '>' => some (.assertion .wordEnd, after)
    | _ => if isEscapable c then char c else none

/-! ## Classes -/

/-- The named ASCII classes. -/
def asciiClass? : String → Option CharSet
  | "alnum" => some (.ofBounds [48, 58, 65, 91, 97, 123])
  | "alpha" => some (.ofBounds [65, 91, 97, 123])
  | "ascii" => some (.ofBounds [0, 128])
  | "blank" => some (.ofBounds [9, 10, 32, 33])
  | "cntrl" => some (.ofBounds [0, 32, 127, 128])
  | "digit" => some (.ofBounds [48, 58])
  | "graph" => some (.ofBounds [33, 127])
  | "lower" => some (.ofBounds [97, 123])
  | "print" => some (.ofBounds [32, 127])
  | "punct" => some (.ofBounds [33, 48, 58, 65, 91, 97, 123, 127])
  | "space" => some (.ofBounds [9, 14, 32, 33])
  | "upper" => some (.ofBounds [65, 91])
  | "word" => some (.ofBounds [48, 58, 65, 91, 95, 96, 97, 123])
  | "xdigit" => some (.ofBounds [48, 58, 65, 71, 97, 103])
  | _ => none

/-- A named ASCII class, from its bracket and colon on; anything else is left to be read as a
class of its own. -/
def readAsciiClass? (i : Input) : Option (ClassExpr × Input) := do
  let i ← i.after? "[:"
  let (negated, i) := match i.after? "^" with
    | some j => (true, j)
    | none => (false, i)
  let name := i.rest.takeWhile (· != ':')
  let j ← ({ i with rest := i.rest.drop name.length } : Input).after? ":]"
  let set ← asciiClass? (String.ofList name)
  return (.ascii set negated, j)

/-- One character or escape in a class. -/
def readClassAtom (i : Input) : Option (ClassExpr × Input) :=
  match i.rest with
  | '\\' :: _ => do
    let (e, j) ← readEscape i
    match e with
    | .char c coded => return (.char c coded, j)
    | .shorthand kind negated => return (.shorthand kind negated, j)
    | .property name negated => return (.property name negated, j)
    | _ => none
  | c :: _ => some (.char c false, i.bump)
  | [] => none

/-- A character, an escape or a range in a class. -/
def readClassRange (i : Input) : Option (ClassExpr × Input) := do
  let (lo, j) ← readClassAtom i
  let j := j.skip
  match j.rest with
  | [] => none
  | '-' :: _ =>
    let later := j.peekSkipping
    if later = some ']' || later = some '-' then return (lo, j)
    else
      let (hi, k) ← readClassAtom j.next
      match lo, hi with
      | .char a ca, .char b cb => if a.toNat ≤ b.toNat then return (.range a b ca cb, k) else none
      | _, _ => none
  | _ => return (lo, j)

/-- The hyphens at the start of a class, which stand for themselves. -/
def readHyphens : (budget : Nat) → (done : List ClassExpr) → Input → List ClassExpr × Input
  | 0, done, i => (done, i)
  | budget + 1, done, i =>
    match i.rest with
    | '-' :: _ => readHyphens budget (.char '-' false :: done) i.next
    | _ => (done, i)

/-- What precedes an operator, joined with the operand `right` that follows it. -/
def joinOperands (left : Option (ClassOp × ClassExpr)) (right : ClassExpr) : ClassExpr :=
  match left with
  | none => right
  | some (op, l) => .operation op l right

/-- The operator that comes next, if any. -/
def readClassOp? (i : Input) : Option (ClassOp × Input) :=
  match i.rest with
  | '&' :: '&' :: rest => some (.inter, { i with rest })
  | '-' :: '-' :: rest => some (.diff, { i with rest })
  | '~' :: '~' :: rest => some (.symmDiff, { i with rest })
  | _ => none

/-- The start of a class after its bracket: whether it is negated, and the items that only a start
may hold. A bracket that closes at once stands for itself. -/
def readClassStart (i : Input) : Option (Bool × List ClassExpr × Input) := do
  let i := i.next
  let (negated, i) := match i.rest with
    | '^' :: _ => (true, i.next)
    | _ => (false, i)
  let (items, i) := readHyphens i.rest.length [] i
  match items, i.rest with
  | _, [] => none
  | [], ']' :: _ => return (negated, [.char ']' false], i.next)
  | _, _ => return (negated, items, i)

/-- The items of a class up to its closing bracket. `items` holds those since the last operator,
last first, and `left` what stands before that operator. -/
def readClassItems : (budget : Nat) → (left : Option (ClassOp × ClassExpr)) →
    (items : List ClassExpr) → Input → Option (ClassExpr × Input)
  | 0, _, _, _ => none
  | budget + 1, left, items, i =>
    let i := i.skip
    match i.rest with
    | [] => none
    | '[' :: _ =>
      match readAsciiClass? i with
      | some (item, j) => readClassItems budget left (item :: items) j
      | none => do
        let (negated, start, j) ← readClassStart i
        let (body, k) ← readClassItems budget none start j
        readClassItems budget left (.bracketed negated body :: items) k
    | ']' :: _ => some (joinOperands left (.ofItems items.reverse), i.bump)
    | _ =>
      match readClassOp? i with
      | some (op, j) =>
        readClassItems budget (some (op, joinOperands left (.ofItems items.reverse))) [] j
      | none => do
        let (item, j) ← readClassRange i
        readClassItems budget left (item :: items) j

/-- A class, from its bracket on. -/
def readClass (i : Input) : Option (Expr × Input) := do
  let (negated, items, j) ← readClassStart i
  let (body, k) ← readClassItems (j.rest.length + 1) none items j
  return (.bracketed negated body, k)

/-! ## Groups -/

/-- The flag with this letter. -/
def flag? : Char → Option Flag
  | 'i' => some .ignoreCase
  | 'm' => some .multiLine
  | 's' => some .dotAll
  | 'U' => some .swapGreed
  | 'u' => some .unicode
  | 'R' => some .anyLineBreak
  | 'x' => some .ignoreBlanks
  | _ => none

/-- The flags of a group up to the colon or parenthesis that ends them; none may be given twice,
and a hyphen must be followed by one. -/
def readFlags : List Char → (negated : Bool) → FlagChange → Option (FlagChange × List Char)
  | [], _, _ => none
  | c :: cs, negated, change =>
    if c = ':' || c = ')' then
      if negated && change.off.isEmpty then none else some (change, c :: cs)
    else if c = '-' then if negated then none else readFlags cs true change
    else do
      let f ← flag? c
      if (change.get? f).isSome then none
      else if negated then readFlags cs negated { change with off := f :: change.off }
      else readFlags cs negated { change with on := f :: change.on }

/-- The characters that a name of a group may start with, the underscore left aside. -/
def nameStart : CharSet :=
  CharSet.union (.ofBounds Unicode.Property.alphabetic) Unicode.Recent.alphabetic

/-- The digits and other numbers that the name of a group may hold. -/
def nameNumber : CharSet :=
  [Unicode.Category.decimalNumber, .letterNumber, .otherNumber].foldl (fun s g => s.union g.set)
    Unicode.Recent.numeric

/-- Whether a character may stand in the name of a group. -/
def isNameChar (first : Bool) (c : Char) : Bool :=
  c = '_' || nameStart.mem c ||
    (!first && (c = '.' || c = '[' || c = ']' || nameNumber.mem c))

/-- The name of a group, up to its closing angle bracket. -/
def readGroupName (i : Input) : Option (String × Input) := do
  let name := i.rest.takeWhile (· != '>')
  let rest := i.rest.drop name.length
  match name with
  | [] => none
  | c :: cs =>
    if rest.isEmpty || !isNameChar true c || !cs.all (isNameChar false) then none
    else return (String.ofList name, { i with rest := rest.tail })

/-- How a group starts. -/
inductive GroupStart where
  | flags (change : FlagChange)
  | plain (change : FlagChange)
  | capture (index : Nat)

/-- The start of a group, from its parenthesis on. -/
def readGroupStart (i : Input) : Option (GroupStart × Input) := do
  let i := i.next
  let named (j : Input) : Option (GroupStart × Input) := do
    let (name, k) ← readGroupName j
    if k.names.contains name then none
    else return (.capture (k.groups + 1),
      { k with groups := k.groups + 1, names := name :: k.names })
  match i.rest with
  | '?' :: 'P' :: '<' :: rest => named { i with rest }
  | '?' :: '<' :: rest => named { i with rest }
  | '?' :: cs =>
    let (change, rest) ← readFlags cs false {}
    match rest with
    | ')' :: rest =>
      if change.on.isEmpty && change.off.isEmpty then none
      else return (.flags change, { i with rest })
    | _ :: rest => return (.plain change, { i with rest })
    | [] => none
  | _ => return (.capture (i.groups + 1), { i with groups := i.groups + 1 })

/-! ## Repetition -/

/-- A decimal number; white space around it is skipped everywhere, and between its digits where
blanks are ignored. It is below `2 ^ 32`. -/
def readDecimal (i : Input) : Option (Nat × Input) :=
  let start : Input := { i with rest := i.rest.dropWhile Unicode.blank.mem }
  let rec digits : (budget : Nat) → (value : Option Nat) → Input → Option (Nat × Input)
    | 0, _, _ => none
    | budget + 1, value, i =>
      match i.rest with
      | c :: _ =>
        if c.isDigit then
          digits budget (some (value.getD 0 * 10 + (c.toNat - '0'.toNat))) i.next
        else value.map (·, i)
      | [] => value.map (·, i)
  match digits (start.rest.length + 1) none start with
  | some (n, j) =>
    if n < 1 <<< 32 then some (n, { j with rest := j.rest.dropWhile Unicode.blank.mem }.skip)
    else none
  | none => none

/-- Whether an expression may be repeated: neither nothing nor a change of flags may. -/
def Expr.isRepeatable : Expr → Bool
  | .empty => false
  | .setFlags _ => false
  | _ => true

/-- The mark of a repetition that prefers the shortest match. -/
def readLazy (i : Input) : Bool × Input :=
  match i.rest with
  | '?' :: _ => (false, i.bump)
  | _ => (true, i)

/-- The bounds of a counted repetition, from its brace on, with the mark after it. -/
def readCount (i : Input) : Option (Nat × Option Nat × Bool × Input) := do
  let (min, i) ← readDecimal i.next
  let (max, i) ←
    match i.rest with
    | ',' :: _ =>
      let i := i.next
      match i.rest with
      | '\x7d' :: _ => pure (none, i)
      | _ => do
        let (max, i) ← readDecimal i
        if min ≤ max then pure (some max, i) else none
    | _ => pure (some min, i)
  match i.rest with
  | '\x7d' :: _ =>
    let (greedy, j) := readLazy i.next
    return (min, max, greedy, j)
  | _ => none

/-- The repetition operator that comes next, applied to the last of `done`. -/
def readRepetition (done : List Expr) (i : Input) : Option (List Expr × Input) :=
  match done with
  | [] => none
  | e :: es =>
    if e.isRepeatable then do
      let (min, max, greedy, j) ←
        match i.rest with
        | '?' :: _ => let (g, j) := readLazy i.bump; pure (0, some 1, g, j)
        | '*' :: _ => let (g, j) := readLazy i.bump; pure (0, none, g, j)
        | '+' :: _ => let (g, j) := readLazy i.bump; pure (1, none, g, j)
        | _ => readCount i
      return (.repeated min max greedy e :: es, j)
    else none

/-! ## Expressions -/

/-- One character, dot, anchor or escape. -/
def readAtom (i : Input) : Option (Expr × Input) :=
  match i.rest with
  | '\\' :: _ => readEscape i
  | '.' :: _ => some (.dot, i.bump)
  | '^' :: _ => some (.assertion .lineStart, i.bump)
  | '$' :: _ => some (.assertion .lineEnd, i.bump)
  | c :: _ => some (.char c false, i.bump)
  | [] => none

mutual

/-- Alternatives up to the end or a closing parenthesis. `before` holds those read already, last
first. -/
def readAlternatives : (budget : Nat) → (before : List Expr) → Input → Option (Expr × Input)
  | 0, _, _ => none
  | budget + 1, before, i => do
    let (e, j) ← readSequence budget [] i
    match j.rest with
    | '|' :: _ => readAlternatives budget (e :: before) j.bump
    | _ => return (Expr.ofAlternatives (e :: before).reverse, j)

/-- A sequence up to the end, a bar or a closing parenthesis. `done` holds the parts read already,
last first. -/
def readSequence : (budget : Nat) → (done : List Expr) → Input → Option (Expr × Input)
  | 0, _, _ => none
  | budget + 1, done, i =>
    let i := i.skip
    match i.rest with
    | [] => some (Expr.ofSequence done.reverse, i)
    | ')' :: _ => some (Expr.ofSequence done.reverse, i)
    | '|' :: _ => some (Expr.ofSequence done.reverse, i)
    | '[' :: _ => do
      let (e, j) ← readClass i
      readSequence budget (e :: done) j
    | '(' :: _ => do
      let (start, j) ← readGroupStart i
      let inner (change : FlagChange) : Input :=
        { j with ignoreBlanks := (change.get? .ignoreBlanks).getD j.ignoreBlanks }
      let group (j : Input) : Option (Expr × Input) := do
        let (e, k) ← readAlternatives budget [] j
        match k.rest with
        | ')' :: _ => return (e, { k.bump with ignoreBlanks := i.ignoreBlanks })
        | _ => none
      match start with
      | .flags change => readSequence budget (.setFlags change :: done) (inner change)
      | .plain change =>
        let (e, k) ← group (inner change)
        readSequence budget (.group change e :: done) k
      | .capture index =>
        let (e, k) ← group j
        readSequence budget (.capture index e :: done) k
    | c :: _ =>
      if c = '?' || c = '*' || c = '+' || c = '\x7b' then do
        let (es, j) ← readRepetition done i
        readSequence budget es j
      else do
        let (e, j) ← readAtom i
        readSequence budget (e :: done) j

end

/-- The expression with this text, if it is one and is not nested too deeply. -/
def Expr.read? (source : String) : Option Expr := do
  let cs := source.toList
  let (e, i) ← readAlternatives (2 * cs.length + 2) [] { rest := cs }
  if i.rest.isEmpty && e.depth ≤ nestLimit then some e else none

end Tint.Regex
