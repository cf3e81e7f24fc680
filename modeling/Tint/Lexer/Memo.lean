import Tint.Pattern

/-!
# Remembered searches

The place from which a text is searched never goes back. So a match found from an earlier place is
still the first one, as long as it lies ahead: from a later place the pattern sees less text
before the match, and the only match this can add starts at that place itself. There the pattern
is tried once; if it does not match, the remembered answer stands. A remembered match that starts
at the place itself was found with more text before it and is searched anew.

A remembered search belongs to a pattern, whichever mode it is made for.
-/

namespace Tint

/-- The patterns of a mode that boundaries are searched with. -/
inductive Slot where
  | opener
  | closer
  | illegal
deriving DecidableEq, Repr

/-- Only what closes a mode may match the empty text. -/
def Slot.allowsEmpty : Slot → Bool
  | .closer => true
  | _ => false

/-- A pattern of a grammar, by its mode and slot. -/
structure Slot.Key where
  mode : Nat
  slot : Slot
deriving DecidableEq, Repr

/-- Search the text from `position` on, which is `rest`, without remembering. -/
def Pattern.searchFrom (p : Pattern) (slot : Slot) (rest : List Char) (position : Nat) :
    Option Found :=
  p.firstIn (!slot.allowsEmpty) rest position

/-- The match that starts where `rest` does, if the slot allows it. -/
def Pattern.startingAt (p : Pattern) (slot : Slot) (rest : List Char) (position : Nat) :
    Option Found :=
  wanted? (!slot.allowsEmpty) position (p.matchLength? none rest)

/-- The answer to a search and the place it was made from. -/
structure Searched where
  position : Nat
  found : Option Found
deriving DecidableEq, Repr

/-- The searches remembered for each pattern. -/
structure Memo where
  entries : List (Slot.Key × Searched) := []

namespace Memo

def empty : Memo := {}

/-- The last search made with a pattern. -/
def get? (m : Memo) (key : Slot.Key) : Option Searched := m.entries.lookup key

/-- Remember a search in place of the last one. -/
def putEntry (key : Slot.Key) (s : Searched) : List (Slot.Key × Searched) →
    List (Slot.Key × Searched)
  | [] => [(key, s)]
  | (k, t) :: rest => if key = k then (k, s) :: rest else (k, t) :: putEntry key s rest

def put (m : Memo) (key : Slot.Key) (s : Searched) : Memo := ⟨putEntry key s m.entries⟩

/-- The answer to a search, from the last one where that still holds. Only where it is needed,
`search` says what is found at or after the place, and `attempt` what starts there. -/
def answerBy (last : Option Searched) (position : Nat) (search attempt : Unit → Option Found) :
    Option Found :=
  match last with
  | none => search ()
  | some s =>
    if s.position = position then s.found
    else if position < s.position then search ()
    else
      match s.found with
      | none => attempt ()
      | some f =>
        if f.start < position then search ()
        else
          match attempt () with
          | some g => some g
          | none => if f.start = position then search () else some f

/-- The answer to a search of the text from `position` on, which is `rest`. -/
def answer (last : Option Searched) (slot : Slot) (p : Pattern) (rest : List Char)
    (position : Nat) : Option Found :=
  answerBy last position (fun _ => p.searchFrom slot rest position)
    fun _ => p.startingAt slot rest position

/-- Search the text from `position` on, which is `rest`, and remember the answer. -/
def find (m : Memo) (key : Slot.Key) (p : Pattern) (rest : List Char) (position : Nat) :
    Option Found × Memo :=
  let found := answer (m.get? key) key.slot p rest position
  (found, m.put key { position, found })

end Memo

end Tint
