import Tint.Regex.Term

/-!
# Automata

An automaton is an array of nodes. Some nodes consume a character, the others are passed without
consuming one: an assertion, or a choice among several nodes in the order of preference. The
automaton of a term is built from its end: each part is built in front of a node that is already
there. Only a loop is built in front of a node whose successors are not known yet; they are filled
in when its body is there.

A choice that has been passed is not passed again before a character is consumed. Therefore the
loop around a body that may match the empty text enters the body first and chooses after it; a
loop around any other body chooses before it.
-/

namespace Tint.Regex

/-- A node of an automaton. -/
inductive Node where
  | accept
  | char (c : Char) (next : Nat)
  | set (s : CharSet) (next : Nat)
  | look (a : Look) (next : Nat)
  | choice (nexts : List Nat)

/-- How many nodes are entered from a node without consuming a character, itself included. -/
def Node.entries : Node → Nat
  | .choice nexts => nexts.length + 1
  | .look _ _ => 2
  | _ => 1

/-- An automaton: its nodes and the node where it starts. -/
structure Automaton where
  nodes : Array Node
  start : Nat
  /-- How often nodes are entered at most, when nodes are entered at one place from one node. -/
  entries : Nat

namespace Automaton

/-- Builds nodes in front of a node; gives the first of them. -/
abbrev Builder := (next : Nat) → Array Node → Nat × Array Node

/-- Add a node. -/
def add (node : Node) (nodes : Array Node) : Nat × Array Node := (nodes.size, nodes.push node)

/-- A choice between entering a body and going past it. -/
def enterOr (greedy : Bool) (enter skip : Nat) : Node :=
  .choice (if greedy then [enter, skip] else [skip, enter])

/-- The characters of a literal. -/
def characters : List Char → Builder
  | [], next, nodes => (next, nodes)
  | c :: cs, next, nodes =>
    let (k, nodes) := characters cs next nodes
    add (.char c k) nodes

/-- So many copies, one after the other. -/
def copies (body : Builder) : Nat → Builder
  | 0, next, nodes => (next, nodes)
  | n + 1, next, nodes =>
    let (k, nodes) := body next nodes
    copies body n k nodes

/-- Up to so many copies, before each of which it may be left for `exit`. -/
def optionals (body : Builder) (greedy : Bool) (exit : Nat) : Nat → Builder
  | 0, next, nodes => (next, nodes)
  | n + 1, next, nodes =>
    let (k, nodes) := body next nodes
    let (u, nodes) := add (enterOr greedy k exit) nodes
    optionals body greedy exit n u nodes

/-- A body and the choice after it to enter it again: the choice and the first node of the body. -/
def loop (body : Builder) (greedy : Bool) (next : Nat) (nodes : Array Node) :
    Nat × Nat × Array Node :=
  let (u, nodes) := add (.choice []) nodes
  let (k, nodes) := body u nodes
  (u, k, nodes.setIfInBounds u (enterOr greedy k next))

mutual

/-- The nodes of a term. -/
def build : Term → Builder
  | .empty, next, nodes => (next, nodes)
  | .literal cs, next, nodes => characters cs next nodes
  | .set s, next, nodes => add (.set s next) nodes
  | .look a, next, nodes => add (.look a next) nodes
  | .capture _ body, next, nodes => build body next nodes
  | .sequence parts, next, nodes => buildSequence parts next nodes
  | .alternatives parts, next, nodes =>
    let (starts, nodes) := buildEach parts next nodes
    add (.choice starts) nodes
  | .repeated min none greedy body, next, nodes =>
    match min with
    | 0 =>
      let (u, k, nodes) := loop (build body) greedy next nodes
      if (body.minLength?.getD 0) > 0 then (u, nodes)
      else add (enterOr greedy k next) nodes
    | min + 1 =>
      let (_, k, nodes) := loop (build body) greedy next nodes
      copies (build body) min k nodes
  | .repeated min (some max) greedy body, next, nodes =>
    let (k, nodes) := optionals (build body) greedy next (max - min) next nodes
    copies (build body) min k nodes

/-- The nodes of terms that follow each other. -/
def buildSequence : List Term → Builder
  | [], next, nodes => (next, nodes)
  | t :: ts, next, nodes =>
    let (k, nodes) := buildSequence ts next nodes
    build t k nodes

/-- The nodes of several terms in front of the same node, and the first of each. -/
def buildEach : List Term → Nat → Array Node → List Nat × Array Node
  | [], _, nodes => ([], nodes)
  | t :: ts, next, nodes =>
    let (k, nodes) := build t next nodes
    let (ks, nodes) := buildEach ts next nodes
    (k :: ks, nodes)

end

/-- The automaton of a term. -/
def ofTerm (t : Term) : Automaton :=
  let (start, nodes) := build t 0 #[.accept]
  { nodes, start, entries := nodes.foldl (fun n node => n + node.entries) 1 }

end Automaton

end Tint.Regex
