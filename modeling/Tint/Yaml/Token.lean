/-!
# Tokens of YAML

Tokens are found line by line. Outside brackets the indentation of a line says which block it
belongs to: a line that is indented more than the block it stands in opens a block, one that is
indented less closes blocks. That a scalar or a bracketed collection is a key shows only at the
colon after it, which must stand on the same line; the token that says so is then put in front of
it. A key is at most 1024 octets long.

This is a part of YAML. There are no tokens for block scalars, which start with `|` or `>`, for
anchors (`&`), aliases (`*`) and tags (`!`), and for directives (`%`). A text that has one of these
is refused, though other readers may take it.
-/

namespace Tint.Yaml

/-! ## Characters -/

def isBlank (c : Char) : Bool := c = ' ' || c = '\t'

def isBreak (c : Char) : Bool :=
  c = '\n' || c = '\r' || c = '\u0085' || c = '\u2028' || c = '\u2029'

/-- Whether a word ends here: at a blank, a line break or the end. -/
def endsWord : List Char → Bool
  | [] => true
  | c :: _ => isBlank c || isBreak c

/-- The characters that may stand in a document. -/
def isAllowed (c : Char) : Bool :=
  let n := c.toNat
  c = '\t' || c = '\n' || c = '\r' || (32 ≤ n && n ≤ 126) || n = 0x85 ||
    (0xA0 ≤ n && n ≤ 0xFFFD) || 0x10000 ≤ n

/-- The characters with a meaning at the start of a token. -/
def isIndicator (c : Char) : Bool :=
  ['-', '?', ':', ',', '[', ']', '\x7b', '\x7d', '#', '&', '*', '!', '|', '>', '\'', '"', '%',
    '@', '\x60'].contains c

/-- The brackets and the comma of flow collections. -/
def isFlowIndicator (c : Char) : Bool := [',', '[', ']', '\x7b', '\x7d'].contains c

/-- Whether a line starts with the mark of a document's start or end. -/
def startsDocument (mark : Char) (cs : List Char) : Bool :=
  [mark, mark, mark].isPrefixOf cs && endsWord (cs.drop 3)

/-! ## Tokens -/

inductive Token where
  | documentStart
  | documentEnd
  | blockSequence
  | blockMapping
  | blockEnd
  | flowSequence
  | flowSequenceEnd
  | flowMapping
  | flowMappingEnd
  | entry
  | comma
  | key
  | value
  /-- A scalar; a plain one is not quoted. -/
  | scalar (text : String) (plain : Bool)
deriving DecidableEq, Repr

/-- Where a key may start: the number of tokens before it, and its place. -/
structure PossibleKey where
  tokens : Nat
  index : Nat
  line : Nat
  column : Nat
  /-- It must be a key, since nothing else can stand at this indentation. -/
  required : Bool

/-- How far the text has been read; `index` counts octets, `column` characters. -/
structure Scan where
  rest : List Char
  index : Nat := 0
  line : Nat := 0
  column : Nat := 0
  /-- How many brackets are open. -/
  flow : Nat := 0
  /-- The indentation of the innermost block; nothing outside all blocks. -/
  indent : Option Nat := none
  /-- The indentations of the blocks around it. -/
  outer : List (Option Nat) := []
  keyAllowed : Bool := true
  /-- What may be a key, inside each open bracket and outside all, innermost first. -/
  keys : List (Option PossibleKey) := [none]
  tokens : Array Token := #[]

namespace Scan

/-! ## Moving on -/

/-- Go past one character that is no line break. -/
def bump (s : Scan) : Scan :=
  match s.rest with
  | [] => s
  | c :: rest => { s with rest, index := s.index + c.utf8Size, column := s.column + 1 }

/-- Go past several characters that are no line breaks. -/
def skip (s : Scan) : Nat → Scan
  | 0 => s
  | n + 1 => skip s.bump n

/-- Go past a line break, and give it as it stands in a scalar. -/
def bumpLine (s : Scan) : Char × Scan :=
  match s.rest with
  | '\r' :: '\n' :: rest =>
    ('\n', { s with rest, index := s.index + 2, line := s.line + 1, column := 0 })
  | c :: rest =>
    (if c = '\u2028' || c = '\u2029' then c else '\n',
      { s with rest, index := s.index + c.utf8Size, line := s.line + 1, column := 0 })
  | [] => ('\n', s)

def push (s : Scan) (t : Token) : Scan := { s with tokens := s.tokens.push t }

/-- Whether the indentation of the innermost block is less than a column. -/
def isIndented (s : Scan) (column : Nat) : Bool :=
  match s.indent with
  | none => true
  | some i => i < column

/-! ## Blocks and keys -/

/-- Open a block at a column, if it is indented more than the block around it; its token is put
at a place among the tokens. -/
def openBlock (s : Scan) (column place : Nat) (t : Token) : Scan :=
  if s.flow = 0 && s.isIndented column then
    { s with indent := some column, outer := s.indent :: s.outer,
             tokens := s.tokens.insertIdxIfInBounds place t }
  else s

/-- Close the blocks that are indented more than a column. -/
def closeBlocks (s : Scan) (column : Nat) : Scan :=
  if s.flow = 0 then go s.outer s else s
where
  go : List (Option Nat) → Scan → Scan
    | [], s => s
    | o :: outer, s =>
      match s.indent with
      | some i => if column < i then go outer { s.push .blockEnd with indent := o, outer } else s
      | none => s

/-- Close all blocks. -/
def closeAll (s : Scan) : Scan :=
  if s.flow = 0 then
    { s with indent := none, outer := [],
             tokens := s.outer.foldl (fun ts _ => ts.push .blockEnd) s.tokens }
  else s

/-- Give up what may have been a key; an error if it had to be one. -/
def dropKey (s : Scan) : Option Scan :=
  match s.keys with
  | some k :: keys => if k.required then none else some { s with keys := none :: keys }
  | _ => some s

/-- Give up everything that may have been a key but is too far back. -/
def dropStaleKeys (s : Scan) : Option Scan := do
  let keys ← s.keys.mapM fun
    | none => some none
    | some k =>
      if k.line < s.line || k.index + 1024 < s.index then
        if k.required then none else some none
      else some (some k)
  return { s with keys }

/-- Note that a key may start here. -/
def noteKey (s : Scan) : Option Scan :=
  if s.keyAllowed then do
    let s ← s.dropKey
    let key : PossibleKey :=
      { tokens := s.tokens.size, index := s.index, line := s.line, column := s.column
        required := s.flow = 0 && s.indent = some s.column }
    return { s with keys := some key :: s.keys.tail }
  else some s

/-! ## Between tokens -/

/-- Skip a comment. -/
def skipComment : (budget : Nat) → Scan → Scan
  | 0, s => s
  | budget + 1, s =>
    match s.rest with
    | c :: _ => if isBreak c then s else skipComment budget s.bump
    | [] => s

/-- Skip blanks, comments and line breaks. Tabs do not indent, and a line may start with a mark for
the order of octets. -/
def skipBetween : (budget : Nat) → Scan → Scan
  | 0, s => s
  | budget + 1, s =>
    match s.rest with
    | [] => s
    | c :: _ =>
      if c = ' ' || (c = '\t' && (0 < s.flow || !s.keyAllowed)) then skipBetween budget s.bump
      else if c = '\ufeff' && s.column = 0 then skipBetween budget s.bump
      else if c = '#' then skipBetween budget (skipComment s.rest.length s)
      else if isBreak c then
        let s := s.bumpLine.2
        skipBetween budget (if s.flow = 0 then { s with keyAllowed := true } else s)
      else s

/-! ## Scalars -/

/-- The blanks or line breaks inside a scalar: a single line break becomes a blank, of several
the first is dropped. -/
structure Gap where
  blanks : List Char := []
  /-- The first line break. -/
  first : Option Char := none
  /-- The line breaks after it, last first. -/
  others : List Char := []
  /-- Whether a line has ended. -/
  broken : Bool := false

/-- What a gap stands for, in the order of the text. -/
def Gap.text (g : Gap) : List Char :=
  if g.broken then
    match g.first with
    | some '\n' => if g.others.isEmpty then [' '] else g.others.reverse
    | some c => c :: g.others.reverse
    | none => g.others.reverse
  else g.blanks.reverse

/-- Read a gap. In a plain scalar, `indent` is how far a tab must be indented. -/
def readGap (indent : Option Nat) : (budget : Nat) → Gap → Scan → Option (Gap × Scan)
  | 0, g, s => some (g, s)
  | budget + 1, g, s =>
    match s.rest with
    | [] => some (g, s)
    | c :: _ =>
      if isBlank c then
        if g.broken && c = '\t' && indent.any (s.column < ·) then none
        else
          readGap indent budget (if g.broken then g else { g with blanks := c :: g.blanks }) s.bump
      else if isBreak c then
        let (b, s) := s.bumpLine
        readGap indent budget
          (if g.broken then { g with others := b :: g.others }
            else { g with blanks := [], first := some b, broken := true }) s
      else some (g, s)

/-- The character that an escape of one letter stands for in a quoted scalar. -/
def escaped? : Char → Option Char
  | '0' => some '\x00'
  | 'a' => some '\x07'
  | 'b' => some '\x08'
  | 't' => some '\t'
  | '\t' => some '\t'
  | 'n' => some '\n'
  | 'v' => some '\x0b'
  | 'f' => some '\x0c'
  | 'r' => some '\r'
  | 'e' => some '\x1b'
  | ' ' => some ' '
  | '"' => some '"'
  | '/' => some '/'
  | '\\' => some '\\'
  | 'N' => some '\u0085'
  | '_' => some '\u00a0'
  | 'L' => some '\u2028'
  | 'P' => some '\u2029'
  | _ => none

/-- How many digits an escape by code has. -/
def codeDigits? : Char → Option Nat
  | 'x' => some 2
  | 'u' => some 4
  | 'U' => some 8
  | _ => none

/-- The value of a hexadecimal digit. -/
def hexDigit? (c : Char) : Option Nat :=
  if c.isDigit then some (c.toNat - '0'.toNat)
  else if 'a' ≤ c && c ≤ 'f' then some (c.toNat - 'a'.toNat + 10)
  else if 'A' ≤ c && c ≤ 'F' then some (c.toNat - 'A'.toNat + 10)
  else none

/-- The character with a code of so many hexadecimal digits. -/
def readCode (digits : Nat) (cs : List Char) : Option Char := do
  let ds := cs.take digits
  let n ← ds.foldlM (fun n c => (hexDigit? c).map (n * 16 + ·)) 0
  if ds.length = digits && (n < 0xD800 || (0xDFFF < n && n < 0x110000)) then some (Char.ofNat n)
  else none

/-- A quoted scalar after its opening quotation mark; `done` is what has been read, last first. -/
def readQuoted (single : Bool) : (budget : Nat) → (done : List Char) → Scan →
    Option (List Char × Scan)
  | 0, _, _ => none
  | budget + 1, done, s =>
    if s.column = 0 && (startsDocument '-' s.rest || startsDocument '.' s.rest) then none
    else
      match s.rest with
      | [] => none
      | c :: cs =>
        if isBlank c || isBreak c then do
          let (g, s) ← readGap none (s.rest.length + 1) {} s
          readQuoted single budget (g.text.reverse ++ done) s
        else if single then
          if c = '\'' then
            match cs with
            | '\'' :: _ => readQuoted single budget ('\'' :: done) (s.skip 2)
            | _ => some (done.reverse, s.bump)
          else readQuoted single budget (c :: done) s.bump
        else if c = '"' then some (done.reverse, s.bump)
        else if c = '\\' then
          match cs with
          | [] => none
          | e :: ds =>
            if isBreak e then do
              let (g, s) ← readGap none (s.rest.length + 1) { broken := true } s.bump.bumpLine.2
              readQuoted single budget (g.text.reverse ++ done) s
            else
              match codeDigits? e with
              | some n => do
                let x ← readCode n ds
                readQuoted single budget (x :: done) (s.skip (n + 2))
              | none => do
                let x ← escaped? e
                readQuoted single budget (x :: done) (s.skip 2)
        else readQuoted single budget (c :: done) s.bump

/-- The word of a plain scalar up to a blank or an indicator that ends it, last character first,
and whether an indicator ended it. -/
def readWord : (budget : Nat) → (done : List Char) → Scan → Option (List Char × Scan)
  | 0, done, s => some (done, s)
  | budget + 1, done, s =>
    match s.rest with
    | [] => some (done, s)
    | c :: cs =>
      if isBlank c || isBreak c then some (done, s)
      else if 0 < s.flow && c = ':' &&
          cs.head?.any (fun d => isFlowIndicator d || d = '?') then none
      else if c = ':' && endsWord cs then some (done, s)
      else if 0 < s.flow && isFlowIndicator c then some (done, s)
      else readWord budget (c :: done) s.bump

/-- A plain scalar; `done` is what has been read, last first, and `gap` the gap after it. A line
that is indented no more than the block around the scalar does not belong to it. -/
def readPlain (indent : Nat) : (budget : Nat) → (done : List Char) → Gap → Scan →
    Option (List Char × Gap × Scan)
  | 0, _, _, _ => none
  | budget + 1, done, gap, s =>
    if s.column = 0 && (startsDocument '-' s.rest || startsDocument '.' s.rest) then
      some (done.reverse, gap, s)
    else if s.rest.head? = some '#' then some (done.reverse, gap, s)
    else do
      let (word, t) ← readWord (s.rest.length + 1) [] s
      let (done, gap) :=
        if word.isEmpty then (done, gap) else (word ++ gap.text.reverse ++ done, ({} : Gap))
      match t.rest with
      | [] => return (done.reverse, gap, t)
      | c :: _ =>
        if isBlank c || isBreak c then
          let (g, u) ← readGap (some indent) (t.rest.length + 1) gap t
          if u.flow = 0 && u.column < indent then return (done.reverse, g, u)
          else readPlain indent budget done g u
        else return (done.reverse, gap, t)

/-! ## One token -/

/-- A quoted scalar. -/
def fetchQuoted (single : Bool) (s : Scan) : Option Scan := do
  let s ← s.noteKey
  let start := ({ s with keyAllowed := false } : Scan).bump
  let (text, s) ← readQuoted single (s.rest.length + 1) [] start
  return s.push (.scalar (String.ofList text) false)

/-- A plain scalar. -/
def fetchPlain (s : Scan) : Option Scan := do
  let s ← s.noteKey
  let indent := (s.indent.map (· + 1)).getD 0
  let (text, gap, s) ← readPlain indent (s.rest.length + 1) [] {} { s with keyAllowed := false }
  let s := s.push (.scalar (String.ofList text) true)
  return if gap.broken then { s with keyAllowed := true } else s

/-- An opening bracket. -/
def fetchOpening (t : Token) (s : Scan) : Option Scan := do
  let s ← s.noteKey
  let s := { s with flow := s.flow + 1, keys := none :: s.keys, keyAllowed := true }
  return s.bump.push t

/-- A closing bracket. -/
def fetchClosing (t : Token) (s : Scan) : Option Scan := do
  let s ← s.dropKey
  let s := if s.flow = 0 then s else { s with flow := s.flow - 1, keys := s.keys.tail }
  return ({ s with keyAllowed := false } : Scan).bump.push t

/-- The hyphen of an entry. -/
def fetchEntry (s : Scan) : Option Scan := do
  if s.flow = 0 && !s.keyAllowed then none
  else
    let s ← (s.openBlock s.column s.tokens.size .blockSequence).dropKey
    return ({ s with keyAllowed := true } : Scan).bump.push .entry

/-- The question mark of a key. -/
def fetchKey (s : Scan) : Option Scan := do
  if s.flow = 0 && !s.keyAllowed then none
  else
    let s ← (s.openBlock s.column s.tokens.size .blockMapping).dropKey
    return ({ s with keyAllowed := s.flow = 0 } : Scan).bump.push .key

/-- The colon of a value; what may have been a key before it is one. -/
def fetchValue (s : Scan) : Option Scan :=
  match s.keys with
  | some k :: keys =>
    let s := { s with tokens := s.tokens.insertIdxIfInBounds k.tokens .key }
    let s := s.openBlock k.column k.tokens .blockMapping
    some (({ s with keys := none :: keys, keyAllowed := false } : Scan).bump.push .value)
  | _ =>
    if s.flow = 0 && !s.keyAllowed then none
    else
      let s := s.openBlock s.column s.tokens.size .blockMapping
      some (({ s with keyAllowed := s.flow = 0 } : Scan).bump.push .value)

/-- The mark of a document's start or end. -/
def fetchDocument (t : Token) (s : Scan) : Option Scan := do
  let s ← s.closeAll.dropKey
  return (({ s with keyAllowed := false } : Scan).skip 3).push t

/-- The next token, if the text has not ended; the flag says that it has. Block scalars, anchors,
aliases, tags and directives have no token. -/
def fetch (s : Scan) : Option (Bool × Scan) := do
  let s ← (skipBetween (s.rest.length + 1) s).dropStaleKeys
  let s := s.closeBlocks s.column
  match s.rest with
  | [] => return (true, ← s.closeAll.dropKey)
  | c :: cs =>
    let next (r : Option Scan) : Option (Bool × Scan) := r.map fun s => (false, s)
    if s.column = 0 && startsDocument '-' s.rest then next (s.fetchDocument .documentStart)
    else if s.column = 0 && startsDocument '.' s.rest then next (s.fetchDocument .documentEnd)
    else if c = '[' then next (s.fetchOpening .flowSequence)
    else if c = '\x7b' then next (s.fetchOpening .flowMapping)
    else if c = ']' then next (s.fetchClosing .flowSequenceEnd)
    else if c = '\x7d' then next (s.fetchClosing .flowMappingEnd)
    else if c = ',' then
      next (s.dropKey.map fun s => ({ s with keyAllowed := true } : Scan).bump.push .comma)
    else if c = '-' && endsWord cs then next s.fetchEntry
    else if c = '?' && (0 < s.flow || endsWord cs) then next s.fetchKey
    else if c = ':' && (0 < s.flow || endsWord cs) then next s.fetchValue
    else if c = '\'' then next (s.fetchQuoted true)
    else if c = '"' then next (s.fetchQuoted false)
    else if c = '-' || ((c = '?' || c = ':') && s.flow = 0) || !(isIndicator c || isBlank c) then
      next s.fetchPlain
    else none

/-- All tokens. -/
def run : (budget : Nat) → Scan → Option (List Token)
  | 0, _ => none
  | budget + 1, s => do
    let (ended, s) ← s.fetch
    if ended then return s.tokens.toList else run budget s

end Scan

/-- The tokens of a text in the part of YAML that is read. -/
def tokens? (source : String) : Option (List Token) :=
  let cs := source.toList
  if cs.all isAllowed then Scan.run (cs.length + 2) { rest := cs } else none

end Tint.Yaml
