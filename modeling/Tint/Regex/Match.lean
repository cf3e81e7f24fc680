import Tint.Regex.Automaton

/-!
# Matching

A match is looked for at one place: `Automaton.matchLength?` is given the character before the
place and the text after it, and nothing else, so it cannot depend on anything else. Threads run
through the automaton in the order of preference. When a thread accepts, the threads behind it are
dropped while those before it go on, since they would be preferred; the last acceptance is the
match. No node is entered twice at one place, so the work is at most the length of the text times
the number of nodes.
-/

namespace Tint.Regex

namespace Automaton

/-- The nodes entered at one place, and those among them that consume a character or accept, last
first. -/
structure Frontier where
  seen : Array Bool
  threads : List Nat := []

/-- No node entered yet. -/
def Frontier.start (nodes : Array Node) : Frontier := { seen := .replicate nodes.size false }

/-- Enter nodes one after the other, each with what can be reached from it without consuming a
character. A node that leads to others is replaced by them, so the first of the list and all that it
leads to come before the second. -/
def enter (nodes : Array Node) (before after : Option Char) : (budget : Nat) → List Nat →
    Frontier → Frontier
  | 0, _, f => f
  | _, [], f => f
  | budget + 1, k :: ks, f =>
    if f.seen[k]?.getD true then enter nodes before after budget ks f
    else
      let seen := f.seen.setIfInBounds k true
      match nodes[k]? with
      | some (.choice nexts) =>
        enter nodes before after budget (nexts ++ ks) { seen, threads := f.threads }
      | some (.look a next) =>
        enter nodes before after budget (if a.holds before after then next :: ks else ks)
          { seen, threads := f.threads }
      | _ => enter nodes before after budget ks { seen, threads := k :: f.threads }

/-- Let the threads consume a character, up to the first that accepts. Gives whether one accepted
and what the others reached. -/
def advance (a : Automaton) (c : Char) (after : Option Char) : List Nat → Frontier →
    Bool × Frontier
  | [], f => (false, f)
  | k :: ks, f =>
    match a.nodes[k]? with
    | some .accept => (true, f)
    | some (.char x next) =>
      advance a c after ks
        (if x = c then enter a.nodes (some c) after a.entries [next] f else f)
    | some (.set s next) =>
      advance a c after ks
        (if s.mem c then enter a.nodes (some c) after a.entries [next] f else f)
    | _ => advance a c after ks f

/-- Whether a thread accepts. -/
def accepts (nodes : Array Node) (k : Nat) : Bool :=
  match nodes[k]? with
  | some .accept => true
  | _ => false

/-- Run threads over the rest of the text. `length` octets have been consumed, and `best` is the
length of the match found so far. -/
def run (a : Automaton) : List Char → (threads : List Nat) → (length : Nat) →
    (best : Option Nat) → Option Nat
  | _, [], _, best => best
  | [], k :: ks, length, best => if (k :: ks).any (accepts a.nodes) then some length else best
  | c :: cs, k :: ks, length, best =>
    let (accepted, f) := advance a c cs.head? (k :: ks) (.start a.nodes)
    run a cs f.threads.reverse (length + c.utf8Size) (if accepted then some length else best)

/-- The length in octets of the preferred match at a place, given the character before it and the
text after it. -/
def matchLength? (a : Automaton) (before : Option Char) (rest : List Char) : Option Nat :=
  let f := enter a.nodes before rest.head? a.entries [a.start] (.start a.nodes)
  run a rest f.threads.reverse 0 none

end Automaton

end Tint.Regex
