import Std.Data.HashMap
import Tint.Regex.Octets
import Tint.Regex.Term

/-!
# The size of a pattern

A pattern is too large if its automaton over octets takes more than ten mebioctets, be it the one
that reads ahead or the one that reads back. Both are built in a fixed way, and their size is that
of what is built: 32 octets a state, 8 a transition of a state that has several, and 4 a branch of a
choice. The automata themselves are not needed, so only their states are counted.

A term is built from its parts, which are connected by their ends. An end that is a choice takes a
further branch when it is connected. For a set of characters of which some are not ASCII, states are
shared where they lead on in the same way. What is known to lead on in some way is kept in a table
with a limited number of slots, where what comes later replaces what was there; so how much is
shared depends on the numbers of the states too, and the states of each copy of a set are counted
anew.
-/

namespace Tint.Regex

/-- The largest size of an automaton, in octets. -/
def sizeLimit : Nat := 10 * (1 <<< 20)

/-! ## Tables with slots -/

/-- A table of so many slots, each of which holds the last key that was put into it with its
value. -/
structure SlotTable where
  slots : Nat
  held : Std.HashMap Nat (List Nat × Nat) := {}

namespace SlotTable

/-- The slot of a key. -/
def slot (t : SlotTable) (key : List Nat) : Nat :=
  let h : UInt64 :=
    key.foldl (fun h n => (h ^^^ n.toUInt64) * 1099511628211) 14695981039346656037
  h.toNat % t.slots

/-- The value of a key that is in its slot. -/
def find? (t : SlotTable) (key : List Nat) : Option Nat :=
  match t.held[t.slot key]? with
  | some (k, v) => if k = key then some v else none
  | none => none

/-- Put a key into its slot. -/
def put (t : SlotTable) (key : List Nat) (value : Nat) : SlotTable :=
  { t with held := t.held.insert (t.slot key) (key, value) }

end SlotTable

/-! ## Counting -/

/-- How much has been built: the number of states, and the octets that they take besides. -/
structure Footprint where
  states : Nat := 0
  extra : Nat := 0
  /-- Whether what was built last ends in a choice that is not connected yet. -/
  endsInChoice : Bool := false

namespace Footprint

/-- The size in octets. -/
def size (f : Footprint) : Nat := 32 * f.states + f.extra

def isOver (f : Footprint) : Bool := sizeLimit < f.size

/-- Add states with what they take besides. -/
def add (f : Footprint) (states extra : Nat) : Footprint :=
  { states := f.states + states, extra := f.extra + extra }

/-- Connect the end of what was built last. -/
def connect (f : Footprint) : Footprint :=
  if f.endsInChoice then { f with extra := f.extra + 4, endsInChoice := false } else f

/-- End in a choice. -/
def withChoice (f : Footprint) : Footprint := { f with endsInChoice := true }

/-- Further copies of a part, each connected to the one before it; none once the limit is passed. -/
def repeatCopies (grow : Footprint → Footprint) : Nat → Footprint → Footprint
  | 0, f => f
  | n + 1, f => if f.isOver then f else repeatCopies grow n (grow f.connect)

/-- So many copies of a part. -/
def copies (grow : Footprint → Footprint) : Nat → Footprint → Footprint
  | 0, f => f.add 1 0
  | n + 1, f => repeatCopies grow n (grow f)

/-- Up to so many copies of a part, with a choice before each. -/
def optionals (grow : Footprint → Footprint) : Nat → Footprint → Footprint
  | 0, f => f
  | n + 1, f => if f.isOver then f else optionals grow n (grow (f.add 1 8)).connect

end Footprint

/-! ## Sets of characters -/

/-- The number of a state that leads on in this way: the one that there is, or a new one. -/
def placeState (key : List Nat) (s : Footprint × SlotTable) : Nat × Footprint × SlotTable :=
  match s.2.find? key with
  | some k => (k, s)
  | none => (s.1.states, s.1.add 1 (8 * (key.length / 3)), s.2.put key s.1.states)

mutual

/-- The states of a tree in front of the state `target`; gives the number of the first. -/
def OctetTree.place (target : Nat) : OctetTree → Footprint × SlotTable →
    Nat × Footprint × SlotTable
  | .done, s => (target, s)
  | .branch ranges, s =>
    let (key, s) := OctetTree.placeAll target ranges s
    placeState key s

/-- The states behind each of several ranges; gives the ranges with their numbers. -/
def OctetTree.placeAll (target : Nat) : List (OctetRange × OctetTree) → Footprint × SlotTable →
    List Nat × Footprint × SlotTable
  | [], s => ([], s)
  | (r, t) :: rest, s =>
    let (k, s) := t.place target s
    let (key, s) := OctetTree.placeAll target rest s
    (r.first :: r.last :: k :: key, s)

end

/-- A set of characters that is read ahead. -/
def Footprint.addTree (tree : OctetTree) (f : Footprint) : Footprint :=
  (tree.place f.states (f.add 1 0, { slots := 10000 })).2.1

/-- The states of a sequence that is read back, from its first octet on: each leads to the state
before it. -/
def placeBack : List OctetRange → (next : Nat) → Footprint × SlotTable → Footprint × SlotTable
  | [], _, s => s
  | r :: rest, next, s =>
    let key := [next, r.first, r.last]
    match s.2.find? key with
    | some k => placeBack rest k s
    | none => placeBack rest s.1.states (s.1.add 1 0, s.2.put key s.1.states)

/-- A set of characters that is read back: a choice among all its sequences. -/
def Footprint.addSequences (sequences : List (List OctetRange)) (f : Footprint) : Footprint :=
  let stop := f.states + 1
  (sequences.foldl
    (fun s sequence => placeBack sequence stop s)
    (f.add 2 (4 * sequences.length), { slots := 1000 })).1

/-! ## Literals -/

/-- The parts of a list of literals between its empty ones. -/
def literalChunks : List (List Nat) → List (List (List Nat))
  | [] => [[]]
  | [] :: rest => [] :: literalChunks rest
  | l :: rest =>
    match literalChunks rest with
    | chunk :: chunks => (l :: chunk) :: chunks
    | [] => [[l]]

/-- Literals without empty ones that follow an empty one at the start. -/
def dropRepeatedEmpty : List (List Nat) → List (List Nat)
  | [] :: rest => [] :: rest.dropWhile List.isEmpty
  | literals => literals

/-- A tree of literals no longer than `depth`. Literals share what they start with, unless one that
ends there stands between them. -/
def addLiterals : (depth : Nat) → List (List Nat) → Footprint → Footprint
  | 0, _, f => f
  | depth + 1, literals, f =>
    if literals.all List.isEmpty then f
    else
      let chunks := literalChunks (dropRepeatedEmpty literals)
      chunks.foldl
        (fun f chunk =>
          let octets := (chunk.filterMap List.head?).eraseDups
          let after (o : Nat) : List (List Nat) :=
            (chunk.filter fun l => l.head? = some o).map List.tail
          let f := octets.foldl (fun f o => addLiterals depth (after o) f) f
          match octets.length with
          | 0 => f
          | 1 => f.add 1 4
          | n => f.add 1 (4 + 8 * n))
        (f.add 1 (4 * (chunks.length - 1)))

/-- The octets of a literal. -/
def literalOctets (cs : List Char) : List Nat := cs.flatMap fun c => Octets.ofCode c.toNat

/-- The octets of terms that are all literals. -/
def literals? (ts : List Term) : Option (List (List Nat)) :=
  ts.mapM fun
    | .literal cs => some (literalOctets cs)
    | _ => none

/-! ## Terms -/

/-- A term with what is needed to count its states in one direction. -/
inductive Sketch where
  /-- States that do not depend on the numbers of others. -/
  | plain (states extra : Nat)
  | tree (t : OctetTree)
  | sequences (all : List (List OctetRange))
  | capture (body : Sketch)
  | sequence (parts : List Sketch)
  | alternatives (parts : List Sketch)
  | repeated (min : Nat) (max : Option Nat) (nullable : Bool) (body : Sketch)

namespace Sketch

/-- Whether all characters of a set are ASCII. -/
def isAscii (s : CharSet) : Bool := s.bounds.all (· ≤ 128)

/-- The sketch of a set of characters. -/
def ofSet (back : Bool) (s : CharSet) : Sketch :=
  if isAscii s then .plain 2 (8 * (s.bounds.length / 2))
  else if back then .sequences (Octets.sequences s)
  else .tree (.ofSet s)

/-- The sketch of alternatives that are all literals. -/
def ofLiterals (back : Bool) (ls : List (List Nat)) : Sketch :=
  let ls := if back then ls.map List.reverse else ls
  let depth := ls.foldl (fun n l => Nat.max n l.length) 0
  let f := addLiterals depth ls { states := 1 }
  .plain f.states f.extra

mutual

/-- The sketch of a term; what is read back has its parts in reverse order. -/
def ofTerm (back : Bool) : Term → Sketch
  | .empty => .plain 1 0
  | .literal cs => .plain (literalOctets cs).length 0
  | .set s => ofSet back s
  | .look _ => .plain 1 0
  | .repeated min max _ body =>
    .repeated min max (body.minLength?.getD 0 = 0) (ofTerm back body)
  | .capture _ body => if back then ofTerm back body else .capture (ofTerm back body)
  | .sequence parts =>
    let parts := ofTerms back parts
    .sequence (if back then parts.reverse else parts)
  | .alternatives parts =>
    match literals? parts with
    | some ls => ofLiterals back ls
    | none => .alternatives (ofTerms back parts)

def ofTerms (back : Bool) : List Term → List Sketch
  | [] => []
  | t :: ts => ofTerm back t :: ofTerms back ts

end

mutual

/-- Build what is sketched. -/
def grow : Sketch → Footprint → Footprint
  | .plain states extra, f => f.add states extra
  | .tree t, f => if f.isOver then f else f.addTree t
  | .sequences all, f => if f.isOver then f else f.addSequences all
  | .capture body, f => (grow body (f.add 1 0)).connect.add 1 0
  | .sequence [], f => f.add 1 0
  | .sequence (part :: parts), f => growSequence parts (grow part f)
  | .alternatives (first :: second :: parts), f =>
    growEach parts (((grow second (grow first f).connect).connect).add 2 8)
  | .alternatives parts, f => growEach parts f
  | .repeated min max nullable body, f =>
    match min, max with
    | 0, some 1 => (grow body (f.add 1 8)).connect.add 1 0
    | 0, none =>
      if nullable then (grow body f).connect.add 3 16
      else (grow body (f.add 1 4)).connect.withChoice
    | min, none => ((f.copies (grow body) min).connect.add 1 4).withChoice
    | min, some max =>
      if min = max then f.copies (grow body) min
      else ((f.copies (grow body) min).connect.add 1 0).optionals (grow body) (max - min)

/-- Build parts behind what was built last. -/
def growSequence : List Sketch → Footprint → Footprint
  | [], f => f
  | part :: parts, f => growSequence parts (grow part f.connect)

/-- Build parts as further branches of a choice. -/
def growEach : List Sketch → Footprint → Footprint
  | [], f => f
  | part :: parts, f => growEach parts ((grow part f).connect.add 0 4)

end

end Sketch

namespace Term

/-- Whether the term can only match the empty text. -/
def isZeroLength (t : Term) : Bool := t.maxLength? == some 0

mutual

/-- Whether a match must start, or where `back` says so stop, where an assertion holds. -/
def isAnchored (a : Look) (back : Bool) : Term → Bool
  | .look b => decide (a = b)
  | .repeated min _ _ body => 0 < min && isAnchored a back body
  | .capture _ body => isAnchored a back body
  | .sequence parts => if back then endsAnchored a parts else startsAnchored a parts
  | .alternatives parts => allAnchored a back parts
  | _ => false

def startsAnchored (a : Look) : List Term → Bool
  | [] => false
  | t :: ts => isAnchored a false t || (t.isZeroLength && startsAnchored a ts)

def endsAnchored (a : Look) : List Term → Bool
  | [] => false
  | t :: ts => endsAnchored a ts || (isAnchored a true t && ts.all isZeroLength)

def allAnchored (a : Look) (back : Bool) : List Term → Bool
  | [] => true
  | t :: ts => isAnchored a back t && allAnchored a back ts

end

/-- What precedes the states of a term: unless it is anchored, a loop over all octets. -/
def leadIn (t : Term) (back : Bool) : Footprint :=
  if t.isAnchored (if back then .textEnd else .textStart) back then { states := 1 }
  else { states := 3, extra := 16 }

/-- What is built for a term that is read ahead; the whole match is captured too. -/
def footprintAhead (t : Term) : Footprint :=
  ((Sketch.ofTerm false t).grow ((t.leadIn false).add 1 0)).connect.add 2 0

/-- What is built for a term that is read back. -/
def footprintBack (t : Term) : Footprint :=
  ((Sketch.ofTerm true t).grow (t.leadIn true)).connect.add 1 0

/-- Whether a term is not too large. -/
def fits (t : Term) : Bool := !t.footprintAhead.isOver && !t.footprintBack.isOver

end Term

end Tint.Regex
