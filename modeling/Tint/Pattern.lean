import Tint.Regex.Meaning
import Tint.Regex.Reader
import Tint.Regex.Size
import Tint.Regex.Trail
import Tint.Text

/-!
# Patterns

A pattern is a compiled regular expression with the text it was written as. It is asked where it
matches in a text, from a place on. What comes before that place is not seen: there the text
starts, for anchors and word boundaries alike.

`find` is the first place from there on where the pattern matches, and `findNonEmpty` the first
where its match is not empty; the characters passed on the way are seen. Both are `firstMatch`,
found the fast way. `matchAt` is the match that starts at the place itself. For it a pattern keeps a
second automaton, that of its text in a group behind `\A`, which is bound to the start of the text.
-/

namespace Tint

/-- The flags of a grammar's patterns. -/
structure PatternOptions where
  caseInsensitive : Bool := false
  /-- Anchors also hold at the lines of the text. -/
  multiLine : Bool := true
deriving DecidableEq, Repr

/-- Where a match starts and stops, in octets. -/
structure Found where
  start : Nat
  stop : Nat
deriving DecidableEq, Repr

/-- Whether a match is empty. -/
def Found.isEmpty (f : Found) : Bool := f.start == f.stop

/-- A compiled pattern. The second automaton matches only where the text starts; not every pattern
has one. -/
structure Pattern where
  source : String
  automaton : Regex.Automaton
  anchored : Option Regex.Automaton

namespace Pattern

/-- The flags that a pattern starts with. -/
def flags (options : PatternOptions) : Regex.Flags where
  ignoreCase := options.caseInsensitive
  multiLine := options.multiLine

/-- The automaton of the regular expression with this text; nothing if it is not one, or one that is
too large. -/
def automaton? (source : String) (options : PatternOptions) : Option Regex.Automaton := do
  let e ← Regex.Expr.read? source
  let t ← e.meaning? (flags options)
  if t.fits then some (.ofTerm t) else none

/-- A pattern's text in a group behind the start of the text. Where the text ends in a comment, the
comment goes on over the parenthesis, and what comes out is not a regular expression. -/
def anchoredSource (source : String) : String := "\\A(?:" ++ source ++ ")"

/-- The pattern with this text. -/
def compile? (source : String) (options : PatternOptions) : Option Pattern :=
  (automaton? source options).map fun automaton =>
    { source, automaton, anchored := automaton? (anchoredSource source) options }

/-- The length of the match at a place, given the character before it and the text after it. -/
def matchLength? (p : Pattern) (before : Option Char) (rest : List Char) : Option Nat :=
  p.automaton.matchLength? before rest

/-- A match of some length at a place, if it is wanted: where `nonEmpty` says so, an empty match is
not. -/
def wanted? (nonEmpty : Bool) (position : Nat) (length : Option Nat) : Option Found :=
  length.bind fun n => if nonEmpty && n == 0 then none else some ⟨position, position + n⟩

/-- The first match at or after a place that is wanted. -/
def firstMatch (p : Pattern) (nonEmpty : Bool) : (before : Option Char) → (rest : List Char) →
    (position : Nat) → Option Found
  | before, [], position => wanted? nonEmpty position (p.matchLength? before [])
  | before, c :: cs, position =>
    match wanted? nonEmpty position (p.matchLength? before (c :: cs)) with
    | some f => some f
    | none => firstMatch p nonEmpty (some c) cs (position + c.utf8Size)

/-- The first match at or after a place that is wanted, found beside the trail of the places
before. -/
def search (p : Pattern) (nonEmpty : Bool) : (before : Option Char) → (rest : List Char) →
    (position : Nat) → Regex.Trail → Option Found
  | before, [], position, trail =>
    wanted? nonEmpty position (p.automaton.matchBeside trail before []).1
  | before, c :: cs, position, trail =>
    let (length, trail) := p.automaton.matchBeside trail before (c :: cs)
    match wanted? nonEmpty position length with
    | some f => some f
    | none => search p nonEmpty (some c) cs (position + c.utf8Size) trail.tail

theorem length_of_wanted?_eq_none {nonEmpty : Bool} {position : Nat} {length : Option Nat}
    (h : wanted? nonEmpty position length = none) : length = none ∨ length = some 0 := by
  cases length with
  | none => exact .inl rfl
  | some n => simp_all [wanted?]

theorem search_eq_firstMatch {p : Pattern} {rest : List Char} {trail : Regex.Trail}
    (h : p.automaton.IdleTrail rest trail) (nonEmpty : Bool) (before : Option Char)
    (position : Nat) :
    p.search nonEmpty before rest position trail = p.firstMatch nonEmpty before rest position := by
  induction rest generalizing before position trail with
  | nil => rw [search, firstMatch, Regex.Automaton.matchBeside_fst h]; rfl
  | cons c cs ih =>
    simp only [search, firstMatch, Regex.Automaton.matchBeside_fst h before, matchLength?]
    split
    · rfl
    · next hn =>
      exact ih (Regex.Automaton.idleTrail_matchBeside h (length_of_wanted?_eq_none hn)) _ _

/-- The first match that is wanted in the text from `position` on, which is `rest`. -/
def firstIn (p : Pattern) (nonEmpty : Bool) (rest : List Char) (position : Nat) : Option Found :=
  p.search nonEmpty none rest position []

theorem firstIn_eq_firstMatch (p : Pattern) (nonEmpty : Bool) (rest : List Char) (position : Nat) :
    p.firstIn nonEmpty rest position = p.firstMatch nonEmpty none rest position :=
  search_eq_firstMatch (Regex.Automaton.idleTrail_nil ..) ..

/-- The first match at or after a place. -/
def find (p : Pattern) (text : List Char) (position : Nat) : Option Found :=
  (Text.dropTo? text position).bind fun rest => p.firstIn false rest position

/-- The first match at or after a place that is not empty. -/
def findNonEmpty (p : Pattern) (text : List Char) (position : Nat) : Option Found :=
  (Text.dropTo? text position).bind fun rest => p.firstIn true rest position

/-- Where a match found at a place stops, if it starts there. -/
def matchAtByFind (p : Pattern) (text : List Char) (position : Nat) : Option Nat :=
  (p.find text position).bind fun f => if f.start = position then some f.stop else none

/-- Where the match that starts at a place stops. Without an automaton that is bound to the start of
the text, it is searched for, and a match that starts later is left aside. -/
def matchAt (p : Pattern) (text : List Char) (position : Nat) : Option Nat :=
  match p.anchored with
  | some automaton =>
    (Text.dropTo? text position).bind fun rest =>
      (({ p with automaton } : Pattern).firstIn false rest position).map (·.stop)
  | none => p.matchAtByFind text position

/-! ## Answers by searching alone

The same two questions can be asked through `find` only: `matchAtByFind` does so, and so does
`findNonEmptyByFind`. A search that goes on after an empty match sees the text from the next
character on. -/

/-- Search again one character after every empty match; `budget` bounds the searches. -/
def findNonEmptyFrom (p : Pattern) (text : List Char) : (budget : Nat) → (position : Nat) →
    Option Found
  | 0, _ => none
  | budget + 1, position =>
    (p.find text position).bind fun f =>
      if f.start < f.stop then some f
      else
        match Text.dropTo? text f.start with
        | some (c :: _) => findNonEmptyFrom p text budget (f.start + c.utf8Size)
        | _ => none

/-- The first match that is not empty, searching again after every empty one. -/
def findNonEmptyByFind (p : Pattern) (text : List Char) (position : Nat) : Option Found :=
  p.findNonEmptyFrom text (text.length + 1) position

end Pattern

end Tint
