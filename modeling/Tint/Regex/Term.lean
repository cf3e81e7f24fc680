import Tint.CharSet
import Tint.Regex.Look

/-!
# Regular expressions as meant

A term has no flags, no escapes and no classes with operators. The functions that build sequences
and alternatives keep terms in a normal form: sequences are flat and hold no empty part, adjacent
characters are one literal, alternatives are flat, and alternatives that all start with the same
parts share them. The order of alternatives and the greed of repetitions say which match is
preferred.
-/

namespace Tint.Regex

/-- A regular expression. A repetition with no maximum is unbounded. -/
inductive Term where
  | empty
  | literal (cs : List Char)
  | set (s : CharSet)
  | look (a : Look)
  | repeated (min : Nat) (max : Option Nat) (greedy : Bool) (body : Term)
  | capture (index : Nat) (body : Term)
  | sequence (parts : List Term)
  | alternatives (parts : List Term)

namespace Term

/-! ## Equality -/

mutual

/-- Whether two terms are the same. -/
def same : Term → Term → Bool
  | .empty, .empty => true
  | .literal a, .literal b => a == b
  | .set a, .set b => a.bounds == b.bounds
  | .look a, .look b => decide (a = b)
  | .repeated m n g a, .repeated m' n' g' b => m == m' && n == n' && g == g' && same a b
  | .capture i a, .capture j b => i == j && same a b
  | .sequence as, .sequence bs => sameAll as bs
  | .alternatives as, .alternatives bs => sameAll as bs
  | _, _ => false

def sameAll : List Term → List Term → Bool
  | [], [] => true
  | a :: as, b :: bs => same a b && sameAll as bs
  | _, _ => false

end

/-! ## Lengths -/

/-- The sum of two lengths, if both are known. -/
def addLengths (a b : Option Nat) : Option Nat := a.bind fun x => b.map (x + ·)

mutual

/-- The least number of characters in a match; nothing for a term that cannot match. -/
def minLength? : Term → Option Nat
  | .empty => some 0
  | .literal cs => some cs.length
  | .set s => if s.isEmpty then none else some 1
  | .look _ => some 0
  | .repeated min _ _ body => body.minLength?.map (min * ·)
  | .capture _ body => body.minLength?
  | .sequence parts => minLengthSum? parts
  | .alternatives parts => minLengthLeast? parts

def minLengthSum? : List Term → Option Nat
  | [] => some 0
  | t :: ts => addLengths t.minLength? (minLengthSum? ts)

def minLengthLeast? : List Term → Option Nat
  | [] => none
  | [t] => t.minLength?
  | t :: ts => t.minLength?.bind fun a => (minLengthLeast? ts).map (Nat.min a)

end

mutual

/-- The greatest number of characters in a match, if there is one. -/
def maxLength? : Term → Option Nat
  | .empty => some 0
  | .literal cs => some cs.length
  | .set s => if s.isEmpty then none else some 1
  | .look _ => some 0
  | .repeated _ max _ body => max.bind fun m => body.maxLength?.map (m * ·)
  | .capture _ body => body.maxLength?
  | .sequence parts => maxLengthSum? parts
  | .alternatives parts => maxLengthMost? parts

def maxLengthSum? : List Term → Option Nat
  | [] => some 0
  | t :: ts => addLengths t.maxLength? (maxLengthSum? ts)

def maxLengthMost? : List Term → Option Nat
  | [] => none
  | [t] => t.maxLength?
  | t :: ts => t.maxLength?.bind fun a => (maxLengthMost? ts).map (Nat.max a)

end

/-! ## Normal forms -/

/-- A set of characters; the set of one character is a literal. -/
def ofSet (s : CharSet) : Term :=
  match s.single? with
  | some c => .literal [c]
  | none => .set s

/-- The parts of a sequence, or the term as its only part; nothing is no part. -/
def parts : Term → List Term
  | .empty => []
  | .sequence ts => ts
  | t => [t]

/-- Put a part in front of others, joining literals that meet. -/
def join (t : Term) (ts : List Term) : List Term :=
  match t, ts with
  | .literal a, .literal b :: rest => .literal (a ++ b) :: rest
  | t, ts => t :: ts

/-- One term after the other. -/
def ofSequence (ts : List Term) : Term :=
  match (ts.flatMap parts).foldr join [] with
  | [] => .empty
  | [t] => t
  | ts => .sequence ts

/-- The options of alternatives, or the term as its only option. -/
def options : Term → List Term
  | .alternatives ts => ts
  | t => [t]

/-- The set of characters that a term stands for, if it is a literal of one character. -/
def charSet? : Term → Option CharSet
  | .literal [c] => some (.singleton c)
  | _ => none

/-- The set that a term is. -/
def asSet? : Term → Option CharSet
  | .set s => some s
  | _ => none

/-- The union of the sets of all terms, if each has one. -/
def unionOf (set? : Term → Option CharSet) (ts : List Term) : Option CharSet :=
  (ts.mapM set?).map fun ss => ss.foldl .union .empty

/-- Any of several terms, the first preferred; common beginnings are left alone. -/
def choose (ts : List Term) : Term :=
  match ts.flatMap options with
  | [] => .set .empty
  | [t] => t
  | ts =>
    match unionOf charSet? ts with
    | some s => ofSet s
    | none =>
      match unionOf asSet? ts with
      | some s => ofSet s
      | none => .alternatives ts

/-- The parts of a term that is a sequence. -/
def sequence? : Term → Option (List Term)
  | .sequence ts => some ts
  | _ => none

/-- How many parts two sequences have in common at their start. -/
def commonStart : List Term → List Term → Nat
  | a :: as, b :: bs => if same a b then commonStart as bs + 1 else 0
  | _, _ => 0

/-- Any of several terms, the first preferred. Options that are all sequences with a common start
share it. -/
def ofAlternatives (ts : List Term) : Term :=
  match choose ts with
  | .alternatives ts =>
    match ts.mapM sequence? with
    | some (first :: others) =>
      let n := others.foldl (fun n s => Nat.min n (commonStart first s)) first.length
      if n = 0 then .alternatives ts
      else
        ofSequence
          (first.take n ++ [choose ((first :: others).map fun s => ofSequence (s.drop n))])
    | _ => .alternatives ts
  | t => t

/-- A repetition. What can only match the empty text is repeated at most once. -/
def ofRepetition (min : Nat) (max : Option Nat) (greedy : Bool) (body : Term) : Term :=
  let (min, max) :=
    if body.maxLength? = some 0 then (Nat.min min 1, some ((max.map (Nat.min · 1)).getD 1))
    else (min, max)
  match min, max with
  | 0, some 0 => .empty
  | 1, some 1 => body
  | min, max => .repeated min max greedy body

end Term

end Tint.Regex
