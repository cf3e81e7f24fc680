import Tint.Yaml.Token

/-!
# Reading YAML

`Node.read?` reads a text that holds one document, in the part of YAML that has tokens. A mapping in
brackets may give keys without values, and a value or entry that is left out is an empty plain
scalar.
-/

namespace Tint.Yaml

/-- A YAML document or a part of one. A plain scalar is not quoted. -/
inductive Node where
  | scalar (text : String) (plain : Bool)
  | sequence (items : List Node)
  | mapping (entries : List (Node × Node))

/-- What is read where nothing is written. -/
def Node.nothing : Node := .scalar "" true

/-- A collection, by what opens it. -/
inductive Collection where
  | blockSequence
  /-- Entries at the indentation of the mapping that they are a value in. -/
  | entries
  | blockMapping
  | flowSequence
  | flowMapping
deriving DecidableEq

mutual

/-- A node that the tokens start with. Only where `block` says so may a block be opened, and only
where `entries` says so may entries stand without a block of their own. -/
def readNode : (budget : Nat) → (block entries : Bool) → List Token → Option (Node × List Token)
  | 0, _, _, _ => none
  | budget + 1, block, entries, ts =>
    match ts with
    | .scalar text plain :: rest => some (.scalar text plain, rest)
    | .entry :: _ => if entries then readItems budget .entries [] ts else none
    | .blockSequence :: rest => if block then readItems budget .blockSequence [] rest else none
    | .blockMapping :: rest => if block then readEntries budget [] rest else none
    | .flowSequence :: rest => readFlowItems budget [] rest
    | .flowMapping :: rest => readFlowEntries budget [] rest
    | _ => none

/-- The items of a block sequence, or entries without a block; `done` holds those before, last
first. -/
def readItems : (budget : Nat) → Collection → (done : List Node) → List Token →
    Option (Node × List Token)
  | 0, _, _, _ => none
  | budget + 1, kind, done, ts =>
    match ts with
    | .entry :: rest =>
      let isEmpty : Bool := match rest with
        | .entry :: _ => true
        | .blockEnd :: _ => true
        | .key :: _ => decide (kind = .entries)
        | .value :: _ => decide (kind = .entries)
        | _ => false
      if isEmpty then readItems budget kind (.nothing :: done) rest
      else do
        let (n, rest) ← readNode budget true false rest
        readItems budget kind (n :: done) rest
    | _ =>
      if kind = .entries then some (.sequence done.reverse, ts)
      else
        match ts with
        | .blockEnd :: rest => some (.sequence done.reverse, rest)
        | _ => none

/-- The entries of a block mapping. -/
def readEntries : (budget : Nat) → (done : List (Node × Node)) → List Token →
    Option (Node × List Token)
  | 0, _, _ => none
  | budget + 1, done, ts =>
    let part (ts : List Token) : Option (Node × List Token) :=
      match ts with
      | .key :: _ => some (.nothing, ts)
      | .value :: _ => some (.nothing, ts)
      | .blockEnd :: _ => some (.nothing, ts)
      | _ => readNode budget true true ts
    let value (ts : List Token) : Option (Node × List Token) :=
      match ts with
      | .value :: rest => part rest
      | _ => some (.nothing, ts)
    match ts with
    | .key :: rest => do
      let (k, rest) ← part rest
      let (v, rest) ← value rest
      readEntries budget ((k, v) :: done) rest
    | .blockEnd :: rest => some (.mapping done.reverse, rest)
    | _ => none

/-- The items of a sequence in brackets; a key makes an item a mapping of one entry. A key that is
left out takes the place of the token that ends it, which is passed over. -/
def readFlowItems : (budget : Nat) → (done : List Node) → List Token → Option (Node × List Token)
  | 0, _, _ => none
  | budget + 1, done, ts =>
    let part (ts : List Token) : Option (Node × List Token) :=
      match ts with
      | .value :: _ => some (.nothing, ts)
      | .comma :: _ => some (.nothing, ts)
      | .flowSequenceEnd :: _ => some (.nothing, ts)
      | _ => readNode budget false false ts
    let item (ts : List Token) : Option (Node × List Token) :=
      match ts with
      | .key :: rest => do
        let (k, rest) ←
          match rest with
          | .value :: rest => some (.nothing, rest)
          | .comma :: rest => some (.nothing, rest)
          | .flowSequenceEnd :: rest => some (.nothing, rest)
          | _ => part rest
        match rest with
        | .value :: rest =>
          let (v, rest) ← part rest
          return (.mapping [(k, v)], rest)
        | _ => return (.mapping [(k, .nothing)], rest)
      | _ => readNode budget false false ts
    match ts with
    | .flowSequenceEnd :: rest => some (.sequence done.reverse, rest)
    | _ =>
      if done.isEmpty then do
        let (n, rest) ← item ts
        readFlowItems budget [n] rest
      else
        match ts with
        | .comma :: .flowSequenceEnd :: rest => some (.sequence done.reverse, rest)
        | .comma :: rest => do
          let (n, rest) ← item rest
          readFlowItems budget (n :: done) rest
        | _ => none

/-- The entries of a mapping in brackets. -/
def readFlowEntries : (budget : Nat) → (done : List (Node × Node)) → List Token →
    Option (Node × List Token)
  | 0, _, _ => none
  | budget + 1, done, ts =>
    let part (ts : List Token) : Option (Node × List Token) :=
      match ts with
      | .value :: _ => some (.nothing, ts)
      | .comma :: _ => some (.nothing, ts)
      | .flowMappingEnd :: _ => some (.nothing, ts)
      | _ => readNode budget false false ts
    let entry (ts : List Token) : Option ((Node × Node) × List Token) :=
      match ts with
      | .key :: rest => do
        let (k, rest) ← part rest
        match rest with
        | .value :: rest =>
          let (v, rest) ← part rest
          return ((k, v), rest)
        | _ => return ((k, .nothing), rest)
      | _ => do
        let (k, rest) ← readNode budget false false ts
        return ((k, .nothing), rest)
    match ts with
    | .flowMappingEnd :: rest => some (.mapping done.reverse, rest)
    | _ =>
      if done.isEmpty then do
        let (e, rest) ← entry ts
        readFlowEntries budget [e] rest
      else
        match ts with
        | .comma :: .flowMappingEnd :: rest => some (.mapping done.reverse, rest)
        | .comma :: rest => do
          let (e, rest) ← entry rest
          readFlowEntries budget (e :: done) rest
        | _ => none

end

/-- Whether a document has no content. -/
def startsNothing : List Token → Bool
  | [] => true
  | .documentStart :: _ => true
  | .documentEnd :: _ => true
  | _ => false

/-- The content of one document, and the tokens after it. -/
def readContent (ts : List Token) : Option (Node × List Token) :=
  if startsNothing ts then some (.nothing, ts)
  else readNode (2 * ts.length + 1) true false ts

/-- Tokens after the marks of a document's end that they start with. -/
def dropEnds (ts : List Token) : List Token := ts.dropWhile (· == .documentEnd)

/-- The document that a text holds; nothing if it holds none, or several. -/
def Node.read? (source : String) : Option Node := do
  let ts ← tokens? source
  let (n, rest) ←
    match ts with
    | [] => none
    | .documentStart :: rest => readContent rest
    | .documentEnd :: _ => none
    | ts => readContent ts
  if (dropEnds rest).isEmpty then some n else none

end Tint.Yaml
