import Tint.CharSet

/-!
# Characters as octets

In UTF-8 a character is written with one to four octets. A stretch of characters is cut into pieces
whose characters have the same number of octets, and whose octets vary independently of each other.
So each piece is a sequence of ranges of octets, and a set of characters is a list of such
sequences, in the order of their characters. Sequences that start alike make a tree.
-/

namespace Tint.Regex

/-- The octets from `first` to `last`, both included. -/
structure OctetRange where
  first : Nat
  last : Nat
deriving DecidableEq, Repr

namespace Octets

/-- The octets of a code point. -/
def ofCode (n : Nat) : List Nat :=
  if n < 0x80 then [n]
  else if n < 0x800 then [0xC0 + n / 64, 0x80 + n % 64]
  else if n < 0x10000 then [0xE0 + n / 64 / 64, 0x80 + n / 64 % 64, 0x80 + n % 64]
  else
    [0xF0 + n / 64 / 64 / 64, 0x80 + n / 64 / 64 % 64, 0x80 + n / 64 % 64, 0x80 + n % 64]

/-- Where a stretch is cut that holds characters of several lengths: the last code of its first
piece. -/
def lengthCut? (lo hi : Nat) : Option Nat := [0x7F, 0x7FF, 0xFFFF].find? fun m => lo ≤ m && m < hi

/-- Where a stretch is cut that begins or ends inside a block of `size` codes and reaches beyond
it. -/
def blockCut? (lo hi size : Nat) : Option Nat :=
  if lo / size = hi / size then none
  else if lo % size ≠ 0 then some (lo / size * size + (size - 1))
  else if hi % size ≠ size - 1 then some (hi / size * size - 1)
  else none

/-- Where a stretch is cut first, if its octets do not vary independently. -/
def cut? (lo hi : Nat) : Option Nat :=
  (lengthCut? lo hi).or
    (if hi < 0x80 then none else [64, 64 * 64, 64 * 64 * 64].findSome? (blockCut? lo hi))

/-- The pieces of a stretch, which is cut `depth` times at most to get to a piece. -/
def pieces : (depth : Nat) → (lo hi : Nat) → List (List OctetRange)
  | 0, _, _ => []
  | depth + 1, lo, hi =>
    match cut? lo hi with
    | some m => pieces depth lo m ++ pieces depth (m + 1) hi
    | none => [List.zipWith OctetRange.mk (ofCode lo) (ofCode hi)]

/-- The stretches between bounds, from the first to the last code of each. -/
def stretches : List Nat → List (Nat × Nat)
  | lo :: stop :: rest => (lo, stop - 1) :: stretches rest
  | _ => []

/-- The sequences of octets of a set of characters. -/
def sequences (s : CharSet) : List (List OctetRange) :=
  (stretches s.bounds).flatMap fun p => pieces 16 p.1 p.2

end Octets

/-! ## Trees -/

/-- Sequences of octets, where those that follow each other share the ranges that they start with.
Each range leads to what may come after it. -/
inductive OctetTree where
  | done
  | branch (ranges : List (OctetRange × OctetTree))

namespace OctetTree

/-- Sequences that follow each other and start with the same range, under that range. -/
def groups : List (List OctetRange) → List (OctetRange × List (List OctetRange))
  | [] => []
  | [] :: others => groups others
  | (r :: rest) :: others =>
    match groups others with
    | (r', rests) :: more =>
      if r = r' then (r, rest :: rests) :: more else (r, [rest]) :: (r', rests) :: more
    | [] => [(r, [rest])]

/-- The tree of sequences that are no longer than `depth`. -/
def ofSequences : (depth : Nat) → List (List OctetRange) → OctetTree
  | 0, _ => .done
  | depth + 1, sequences =>
    if sequences.all List.isEmpty then .done
    else .branch ((groups sequences).map fun g => (g.1, ofSequences depth g.2))

/-- The tree of a set of characters. -/
def ofSet (s : CharSet) : OctetTree := ofSequences 5 (Octets.sequences s)

end OctetTree

end Tint.Regex
