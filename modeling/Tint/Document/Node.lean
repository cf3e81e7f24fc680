import Tint.Json.Value

/-!
# Documents

A document is a tree of scalars, lists and mappings, whatever format it was written in. What a
scalar can be read as depends on the format and is settled when the tree is built: a plain `1`
of one format is a number alone, that of another may serve as text too.
-/

namespace Tint.Document

/-- What a scalar can be read as. -/
structure Scalar where
  /-- Where a text is expected. -/
  text : Option String := none
  /-- Where nothing is expected: by itself, it is a text. -/
  word : Option String := none
  /-- It stands for a value that is not there. -/
  absent : Bool := false
  /-- It stands for an empty list or mapping. -/
  blank : Bool := false
  bool : Option Bool := none
  int : Option Int := none
  /-- It can be kept until it is known what it is read as. -/
  keepable : Bool := true
deriving DecidableEq

/-- A document or a part of one. -/
inductive Node where
  | scalar (s : Scalar)
  | list (items : List Node)
  | mapping (entries : List (Node × Node))

/-- A format that grammar definitions are written in. -/
structure Format where
  /-- Whether the fields of a mode may be given as a list. -/
  modesAsLists : Bool
  /-- How deeply lists and mappings that are kept may be nested. -/
  nestingLimit : Nat

namespace Node

/-- The text of a scalar. -/
def text? : Node → Option String
  | scalar s => s.text
  | _ => none

/-- The items of a list. -/
def items? : Node → Option (List Node)
  | list items => some items
  | scalar s => if s.blank then some [] else none
  | mapping _ => none

/-- The entries of a mapping. -/
def entries? : Node → Option (List (Node × Node))
  | mapping entries => some entries
  | scalar s => if s.blank then some [] else none
  | list _ => none

mutual

/-- Whether a part can be kept until it is known what it is read as: all its scalars can, and it
is nested no deeper than `depth`. -/
def keepable (depth : Nat) : Node → Bool
  | .scalar s => s.keepable
  | .list items => match depth with
    | 0 => false
    | depth + 1 => allKeepable depth items
  | .mapping entries => match depth with
    | 0 => false
    | depth + 1 => entriesKeepable depth entries

def allKeepable (depth : Nat) : List Node → Bool
  | [] => true
  | n :: ns => keepable depth n && allKeepable depth ns

def entriesKeepable (depth : Nat) : List (Node × Node) → Bool
  | [] => true
  | (k, v) :: es => keepable depth k && keepable depth v && entriesKeepable depth es

end

end Node

/-! ## JSON documents -/

namespace Scalar

/-- A text that stands by itself. -/
def ofText (s : Option String) : Scalar := { text := s, word := s, keepable := s.isSome }

end Scalar

/-- JSON: a number is not a text, and what is kept is not nested deeper than 127 levels. -/
def jsonFormat : Format := { modesAsLists := true, nestingLimit := 127 }

mutual

/-- A JSON value as a document. -/
def Node.ofJson : Json.Value → Node
  | .null => .scalar { absent := true }
  | .bool b => .scalar { bool := some b }
  | .number n => .scalar { int := n.int?, keepable := n.isReadable }
  | .string s => .scalar (.ofText s)
  | .array items => .list (Node.ofJsonItems items)
  | .object members => .mapping (Node.ofJsonMembers members)

def Node.ofJsonItems : List Json.Value → List Node
  | [] => []
  | v :: vs => Node.ofJson v :: Node.ofJsonItems vs

def Node.ofJsonMembers : List (Option String × Json.Value) → List (Node × Node)
  | [] => []
  | (k, v) :: ms => (.scalar (.ofText k), Node.ofJson v) :: Node.ofJsonMembers ms

end

end Tint.Document
