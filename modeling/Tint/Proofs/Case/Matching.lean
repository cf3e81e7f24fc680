import Tint.Proofs.Case.Terms
import Tint.Proofs.Compile

/-!
# Searches that ignore case

A pattern that ignores case finds the same in texts that are alike, as long as no part of it stops
ignoring case (`Pattern.keepsCase`).

**Automata (`caseless_ofTerm`).** A node that consumes a character comes from a literal or a set of
the term. So in the automaton of a caseless term every such node consumes alike characters alike.

**Threads (`run_alike`).** Assertions do not tell alike characters apart either
(`Look.holds_alike`). So threads that run over texts that are alike are the same at every place.

**Searches (`find_alike`).** Texts that are alike have the same places, so what is found in one
of them is found in the other, at the same place.
-/

namespace Tint

open Text

namespace Regex

/-! ## Nodes -/

/-- The node consumes both cases of an ASCII letter or neither. -/
def Node.Caseless : Node → Prop
  | .char c _ => (CharSet.singleton c).Caseless
  | .set s _ => s.Caseless
  | _ => True

namespace Automaton

/-- Every node of the automaton is caseless. -/
def Caseless (a : Automaton) : Prop := ∀ node ∈ a.nodes, node.Caseless

/-- The builder keeps nodes caseless. -/
def Builder.Caseless (b : Builder) : Prop :=
  ∀ next nodes, (∀ node ∈ nodes, node.Caseless) → ∀ node ∈ (b next nodes).2, node.Caseless

variable {body : Builder} {nodes : Array Node} {a : Automaton} {cs ds : List Char}
  {before before' after after' : Option Char}

theorem caseless_add {added : Node} (hadded : added.Caseless)
    (h : ∀ node ∈ nodes, node.Caseless) : ∀ node ∈ (add added nodes).2, node.Caseless := by
  intro node hnode
  rcases Array.mem_push.1 hnode with hnode | rfl
  · exact h node hnode
  · exact hadded

theorem caseless_enterOr (greedy : Bool) (enter skip : Nat) :
    (enterOr greedy enter skip).Caseless := trivial

theorem caseless_characters {cs : List Char} (h : ∀ c ∈ cs, (CharSet.singleton c).Caseless) :
    Builder.Caseless (characters cs) := by
  induction cs with
  | nil => exact fun _ _ hnodes => hnodes
  | cons c cs ih =>
    obtain ⟨hc, hcs⟩ := List.forall_mem_cons.1 h
    intro next nodes hnodes
    have hnode : ∀ k, (Node.char c k).Caseless := fun _ => hc
    exact caseless_add (hnode _) (ih hcs next nodes hnodes)

theorem caseless_copies (h : body.Caseless) (n : Nat) : Builder.Caseless (copies body n) := by
  induction n with
  | zero => exact fun _ _ hnodes => hnodes
  | succ n ih =>
    intro next nodes hnodes
    exact ih _ _ (h next nodes hnodes)

theorem caseless_optionals (h : body.Caseless) (greedy : Bool) (exit n : Nat) :
    Builder.Caseless (optionals body greedy exit n) := by
  induction n with
  | zero => exact fun _ _ hnodes => hnodes
  | succ n ih =>
    intro next nodes hnodes
    exact ih _ _ (caseless_add (caseless_enterOr ..) (h next nodes hnodes))

theorem caseless_loop (h : body.Caseless) (greedy : Bool) (next : Nat)
    (hnodes : ∀ node ∈ nodes, node.Caseless) :
    ∀ node ∈ (loop body greedy next nodes).2.2, node.Caseless := by
  have hchoice : (Node.choice []).Caseless := trivial
  intro node hnode
  rcases Array.mem_or_eq_of_mem_setIfInBounds hnode with hnode | rfl
  · exact h _ _ (caseless_add hchoice hnodes) node hnode
  · exact caseless_enterOr ..

theorem caseless_buildSequence {ts : List Term} (h : ∀ t ∈ ts, Builder.Caseless (build t)) :
    Builder.Caseless (buildSequence ts) := by
  induction ts with
  | nil =>
    intro next nodes hnodes
    rwa [buildSequence]
  | cons t ts ih =>
    obtain ⟨ht, hts⟩ := List.forall_mem_cons.1 h
    intro next nodes hnodes
    rw [buildSequence]
    exact ht _ _ (ih hts next nodes hnodes)

theorem caseless_buildEach {ts : List Term} (h : ∀ t ∈ ts, Builder.Caseless (build t)) (next : Nat)
    (hnodes : ∀ node ∈ nodes, node.Caseless) :
    ∀ node ∈ (buildEach ts next nodes).2, node.Caseless := by
  induction ts generalizing nodes with
  | nil => rwa [buildEach]
  | cons t ts ih =>
    obtain ⟨ht, hts⟩ := List.forall_mem_cons.1 h
    rw [buildEach]
    exact ih hts (ht next nodes hnodes)

theorem caseless_build {t : Term} (h : t.Caseless) : Builder.Caseless (build t) := by
  induction h with
  | empty =>
    intro next nodes hnodes
    rwa [build]
  | literal hcs =>
    intro next nodes hnodes
    rw [build]
    exact caseless_characters hcs next nodes hnodes
  | @set s hs =>
    intro next nodes hnodes
    have hnode : (Node.set s next).Caseless := hs
    rw [build]
    exact caseless_add hnode hnodes
  | look a =>
    intro next nodes hnodes
    have hlook : (Node.look a next).Caseless := trivial
    rw [build]
    exact caseless_add hlook hnodes
  | capture _ ih =>
    intro next nodes hnodes
    rw [build]
    exact ih next nodes hnodes
  | sequence _ ih =>
    intro next nodes hnodes
    rw [build]
    exact caseless_buildSequence ih next nodes hnodes
  | alternatives _ ih =>
    intro next nodes hnodes
    have hchoice : ∀ starts, (Node.choice starts).Caseless := fun _ => trivial
    rw [build]
    exact caseless_add (hchoice _) (caseless_buildEach ih next hnodes)
  | @repeated min max greedy body _ ih =>
    intro next nodes hnodes
    cases max with
    | some max =>
      rw [build]
      exact caseless_copies ih min _ _ (caseless_optionals ih greedy next _ _ _ hnodes)
    | none =>
      have hloop := caseless_loop ih greedy next hnodes
      cases min with
      | zero =>
        rw [build]
        dsimp only
        split
        · exact hloop
        · exact caseless_add (caseless_enterOr ..) hloop
      | succ min =>
        rw [build]
        exact caseless_copies ih min _ _ hloop

theorem caseless_ofTerm {t : Term} (h : t.Caseless) : (ofTerm t).Caseless := by
  refine caseless_build h 0 #[.accept] ?_
  intro node hnode
  rw [Array.mem_singleton.1 hnode]
  trivial

end Automaton

/-! ## Assertions -/

theorem isWord_alike {before before' : Option Char} (h : Option.Rel AlikeChar before before')
    (unicode : Bool) : Look.isWord unicode before = Look.isWord unicode before' := by
  have hword : Unicode.word.Caseless := by decide +kernel
  have hascii : Unicode.asciiWord.Caseless := by decide
  cases h with
  | none => rfl
  | some hc =>
    cases unicode with
    | true => exact hword.mem_eq hc
    | false => exact hascii.mem_eq hc

theorem beq_alike {before before' : Option Char} (h : Option.Rel AlikeChar before before')
    {x : Char} (hx : (CharSet.singleton x).Caseless) : (before == some x) = (before' == some x) := by
  cases h with
  | none => rfl
  | @some c d hc =>
    have hsame := hx.mem_eq hc
    rw [CharSet.mem_singleton, CharSet.mem_singleton, decide_eq_decide] at hsame
    rw [Bool.eq_iff_iff, beq_iff_eq, beq_iff_eq, Option.some.injEq, Option.some.injEq, eq_comm,
      hsame, eq_comm]

theorem Look.holds_alike {before before' after after' : Option Char}
    (hbefore : Option.Rel AlikeChar before before') (hafter : Option.Rel AlikeChar after after')
    (a : Look) : a.holds before after = a.holds before' after' := by
  have hnone : ∀ {o o' : Option Char}, Option.Rel AlikeChar o o' → o.isNone = o'.isNone := by
    intro o o' h
    cases h <;> rfl
  have hfeed : (CharSet.singleton '\n').Caseless := by decide
  have hreturn : (CharSet.singleton '\r').Caseless := by decide
  cases a <;> simp only [holds, bne, hnone hbefore, hnone hafter, beq_alike hbefore hfeed,
    beq_alike hbefore hreturn, beq_alike hafter hfeed, beq_alike hafter hreturn,
    isWord_alike hbefore, isWord_alike hafter]

/-! ## Threads -/

namespace Automaton

variable {a : Automaton} {nodes : Array Node} {cs ds : List Char}
  {before before' after after' : Option Char}

/-- What is entered depends on the neighbours through the assertions of the nodes only. -/
theorem enter_congr
    (h : ∀ a next, Node.look a next ∈ nodes → a.holds before after = a.holds before' after')
    (budget : Nat) (ks : List Nat) (f : Frontier) :
    enter nodes before after budget ks f = enter nodes before' after' budget ks f := by
  induction budget generalizing ks f with
  | zero => cases ks <;> rfl
  | succ budget ih =>
    cases ks with
    | nil => rfl
    | cons k ks =>
      rw [enter, enter]
      split
      · exact ih ks f
      · split
        · exact ih _ _
        · next a next hnode => rw [h a next (Array.mem_of_getElem? hnode), ih]
        · exact ih _ _

theorem head?_alike (h : Alike cs ds) : Option.Rel AlikeChar cs.head? ds.head? := by
  cases h with
  | nil => exact .none
  | cons hc _ => exact .some hc

theorem advance_alike (ha : a.Caseless) {c d : Char} (hc : AlikeChar c d)
    (hafter : Option.Rel AlikeChar after after') (ks : List Nat) (f : Frontier) :
    advance a c after ks f = advance a d after' ks f := by
  have henter : ∀ budget ks f, enter a.nodes (some c) after budget ks f =
      enter a.nodes (some d) after' budget ks f :=
    enter_congr fun look _ _ => look.holds_alike (.some hc) hafter
  induction ks generalizing f with
  | nil => rfl
  | cons k ks ih =>
    rw [advance, advance]
    split
    · rfl
    · next x next hnode =>
      have hx : (CharSet.singleton x).Caseless := ha _ (Array.mem_of_getElem? hnode)
      have hsame := hx.mem_eq hc
      rw [CharSet.mem_singleton, CharSet.mem_singleton, decide_eq_decide] at hsame
      simp only [hsame, henter, ih]
    · next s next hnode =>
      have hs : s.Caseless := ha _ (Array.mem_of_getElem? hnode)
      rw [hs.mem_eq hc, henter, ih]
    · exact ih f

theorem run_alike (ha : a.Caseless) (h : Alike cs ds) (threads : List Nat) (length : Nat)
    (best : Option Nat) : run a cs threads length best = run a ds threads length best := by
  induction h generalizing threads length best with
  | nil => rfl
  | cons hc h ih => rw [run_cons, run_cons, advance_alike ha hc (head?_alike h), hc.utf8Size_eq, ih]

theorem matchLength?_alike (ha : a.Caseless) (hbefore : Option.Rel AlikeChar before before')
    (h : Alike cs ds) : a.matchLength? before cs = a.matchLength? before' ds := by
  have henter : ∀ budget ks f, enter a.nodes before cs.head? budget ks f =
      enter a.nodes before' ds.head? budget ks f :=
    enter_congr fun look _ _ => look.holds_alike hbefore (head?_alike h)
  rw [matchLength?, matchLength?, henter, run_alike ha h]

end Automaton

end Regex

/-! ## Searches -/

namespace Pattern

variable {p : Pattern} {cs ds : List Char} {before before' : Option Char}

/-- Whether no part of a pattern stops ignoring case. -/
def keepsCase (source : String) : Bool := (Regex.Expr.read? source).all Regex.Expr.keepsCase

/-- The pattern consumes both cases of an ASCII letter or neither. -/
def Caseless (p : Pattern) : Prop := p.automaton.Caseless

theorem caseless_of_compile? {source : String} {options : PatternOptions}
    (hoptions : options.caseInsensitive = true) (hkeeps : keepsCase source = true)
    (h : Pattern.compile? source options = some p) : p.Caseless := by
  obtain ⟨e, t, he, ht, -, rfl⟩ := compile?_eq_some_iff.1 h
  obtain ⟨⟨t', after⟩, hterm, rfl⟩ := Option.map_eq_some_iff.1 ht
  rw [keepsCase, he, Option.all_some] at hkeeps
  exact Regex.Automaton.caseless_ofTerm (Regex.caseless_of_term? e hoptions hkeeps hterm).2

theorem firstMatch_alike (hp : p.Caseless) (nonEmpty : Bool)
    (hbefore : Option.Rel AlikeChar before before') (h : Alike cs ds) (position : Nat) :
    p.firstMatch nonEmpty before cs position = p.firstMatch nonEmpty before' ds position := by
  induction h generalizing before before' position with
  | nil =>
    rw [firstMatch, firstMatch, matchLength?, matchLength?,
      Regex.Automaton.matchLength?_alike hp hbefore .nil]
  | cons hc h ih =>
    rw [firstMatch, firstMatch, matchLength?, matchLength?,
      Regex.Automaton.matchLength?_alike hp hbefore (.cons hc h), ih (.some hc), hc.utf8Size_eq]

theorem firstIn_alike (hp : p.Caseless) (nonEmpty : Bool) (h : Alike cs ds) (position : Nat) :
    p.firstIn nonEmpty cs position = p.firstIn nonEmpty ds position := by
  rw [firstIn_eq_firstMatch, firstIn_eq_firstMatch]
  exact firstMatch_alike hp nonEmpty .none h position

/-- What is read off the rest of a text from a place on does not depend on case, if nothing that is
read off a text does. -/
theorem bind_dropTo?_alike {β : Type} {f : List Char → Option β}
    (hf : ∀ {us vs : List Char}, Alike us vs → f us = f vs) (h : Alike cs ds) (position : Nat) :
    (dropTo? cs position).bind f = (dropTo? ds position).bind f := by
  have hrest := dropTo?_alike h position
  generalize dropTo? cs position = rest, dropTo? ds position = rest' at hrest ⊢
  cases hrest with
  | none => rfl
  | some hrest => exact hf hrest

theorem find_alike (hp : p.Caseless) (h : Alike cs ds) (position : Nat) :
    p.find cs position = p.find ds position :=
  bind_dropTo?_alike (fun hrest => firstIn_alike hp false hrest position) h position

theorem findNonEmpty_alike (hp : p.Caseless) (h : Alike cs ds) (position : Nat) :
    p.findNonEmpty cs position = p.findNonEmpty ds position :=
  bind_dropTo?_alike (fun hrest => firstIn_alike hp true hrest position) h position

end Pattern

end Tint
