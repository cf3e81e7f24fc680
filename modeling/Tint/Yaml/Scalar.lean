import Tint.Document.Node
import Tint.Yaml.Reader

/-!
# YAML scalars

A plain scalar may stand for nothing, a truth value or a number; by itself it is a text only if it
stands for none of them. Where a text is expected, its characters are taken as they are. A quoted
scalar is always a text. An integer of more than 64 bits cannot be kept until it is known what it
is read as; one of more than 128 bits is no integer.
-/

namespace Tint.Yaml

/-- Whether a plain scalar stands for nothing. -/
def isNull (s : String) : Bool := ["", "~", "null", "Null", "NULL"].contains s

/-- The truth value that a plain scalar stands for. -/
def bool? (s : String) : Option Bool :=
  if ["true", "True", "TRUE"].contains s then some true
  else if ["false", "False", "FALSE"].contains s then some false
  else none

/-- The value of a digit in a base of at most sixteen. -/
def digit? (base : Nat) (c : Char) : Option Nat :=
  (Scan.hexDigit? c).bind fun d => if d < base then some d else none

/-- The value of digits, of which there must be one. -/
def natural? (base : Nat) (cs : List Char) : Option Nat :=
  if cs.isEmpty then none else cs.foldlM (fun n c => (digit? base c).map (n * base + ·)) 0

/-- A number after its sign: a base and its digits. Decimal digits with a superfluous zero in
front are no number. -/
def magnitude? : List Char → Option Nat
  | '0' :: 'x' :: cs => natural? 16 cs
  | '0' :: 'o' :: cs => natural? 8 cs
  | '0' :: 'b' :: cs => natural? 2 cs
  | '0' :: _ :: _ => none
  | cs => natural? 10 cs

/-- The integer that a plain scalar stands for. -/
def int? (s : String) : Option Int :=
  let value : Option Int := match s.toList with
    | '-' :: cs => (magnitude? cs).map fun n => -(n : Int)
    | '+' :: cs => (magnitude? cs).map Int.ofNat
    | cs => (magnitude? cs).map Int.ofNat
  value.bind fun i => if -(1 <<< 127 : Nat) ≤ i && i < (1 <<< 128 : Nat) then some i else none

/-- Whether an integer fits into 64 bits, with a sign or without one. -/
def isNarrow (i : Int) : Bool := -(1 <<< 63 : Nat) ≤ i && i < (1 <<< 64 : Nat)

/-- The number that digits with a point and an exponent make, without its sign. -/
def decimal? (cs : List Char) : Option Json.Number :=
  let (whole, cs) := cs.span Char.isDigit
  let (fraction, cs) := match cs with
    | '.' :: rest => rest.span Char.isDigit
    | _ => ([], cs)
  if whole.isEmpty && fraction.isEmpty then none
  else
    let exponent : Option Int := match cs with
      | [] => some 0
      | e :: '+' :: rest => if e = 'e' || e = 'E' then (natural? 10 rest).map Int.ofNat else none
      | e :: '-' :: rest =>
        if e = 'e' || e = 'E' then (natural? 10 rest).map fun n => -(n : Int) else none
      | e :: rest => if e = 'e' || e = 'E' then (natural? 10 rest).map Int.ofNat else none
    exponent.map fun e => { whole, fraction := some fraction, exponent := some e }

/-- Whether a text is decimal digits with a superfluous zero in front. -/
def isPadded : List Char → Bool
  | '0' :: c :: cs => (c :: cs).all Char.isDigit
  | _ => false

/-- Whether a plain scalar stands for a number with a point or an exponent. -/
def isFloat (s : String) : Bool :=
  let unsigned := match s.toList with
    | '-' :: cs => cs
    | '+' :: cs => cs
    | cs => cs
  [".inf", ".Inf", ".INF"].contains (String.ofList unsigned) ||
    [".nan", ".NaN", ".NAN"].contains s ||
    (!isPadded unsigned && (decimal? unsigned).any (·.isFinite))

/-- What a scalar can be read as. -/
def scalar (text : String) (plain : Bool) : Document.Scalar :=
  if plain then
    { text := some text
      word :=
        if isNull text || (bool? text).isSome || (int? text).isSome || isFloat text then none
        else some text
      absent := isNull text, blank := text.isEmpty, bool := bool? text, int := int? text
      keepable := (int? text).all isNarrow }
  else { text := some text, word := some text }

/-- YAML: a mode is always a mapping. -/
def format : Document.Format := { modesAsLists := false, nestingLimit := 128 }

mutual

/-- A YAML node as a document. -/
def Node.toDocument : Node → Document.Node
  | .scalar text plain => .scalar (Yaml.scalar text plain)
  | .sequence items => .list (Node.itemsToDocument items)
  | .mapping entries => .mapping (Node.entriesToDocument entries)

def Node.itemsToDocument : List Node → List Document.Node
  | [] => []
  | n :: ns => n.toDocument :: Node.itemsToDocument ns

def Node.entriesToDocument : List (Node × Node) → List (Document.Node × Document.Node)
  | [] => []
  | (k, v) :: es => (k.toDocument, v.toDocument) :: Node.entriesToDocument es

end

end Tint.Yaml
