import Tint.Proofs.Case.Matching
import Tint.Proofs.Search

/-!
# Searching on behind empty matches

There are two ways to look for the first match that is not empty. One goes through the text and sees
all the characters that it passes. The other asks for the first match of any length, and as long as
that is empty, asks anew behind the character there. What it has passed by then it does not see any
more, so behind an empty match the text starts for it (`resumedMatch`).

**Loop (`findNonEmptyFrom_eq`).** This is what asking anew comes to. The text gets shorter each
time, so there are no more searches than characters, and one.

**Agreement (`resumedMatch_eq_firstMatch`).** The two differ in one character that is seen behind an
empty match, so they agree as long as it makes no difference there. Where the first match is not
empty, or no assertion looks back, it makes none.

**Disagreement (`findNonEmpty_ne_byFind`).** A boundary of words looks back. So where the empty
match of a pattern is passed, the two may differ.
-/

namespace Tint

open Text

namespace Regex

/-! ## Assertions that look back -/

/-- Whether the assertion may depend on the character before. -/
def Look.looksBack : Look → Bool
  | .textEnd | .lineEnd | .wordEndHalf _ => false
  | _ => true

theorem Look.holds_of_looksBack {a : Look} (h : a.looksBack = false)
    (before before' after : Option Char) : a.holds before after = a.holds before' after := by
  cases a <;> first | rfl | cases h

/-- Whether the node asserts something that may depend on the character before. -/
def Node.looksBack : Node → Bool
  | .look a _ => a.looksBack
  | _ => false

theorem Automaton.matchLength?_of_looksBack {a : Automaton}
    (h : ∀ node ∈ a.nodes, node.looksBack = false) (before before' : Option Char)
    (rest : List Char) : a.matchLength? before rest = a.matchLength? before' rest := by
  have henter : ∀ budget ks f, enter a.nodes before rest.head? budget ks f =
      enter a.nodes before' rest.head? budget ks f := by
    refine enter_congr fun look next hnode => ?_
    have hlook : look.looksBack = false := h _ hnode
    exact Look.holds_of_looksBack hlook before before' rest.head?
  rw [matchLength?, matchLength?, henter]

end Regex

namespace Pattern

variable {p : Pattern} {before before' : Option Char} {rest : List Char} {position : Nat}

/-! ## Asking anew -/

/-- The first match that is not empty, where behind every empty match the text starts anew. -/
def resumedMatch (p : Pattern) : (before : Option Char) → (rest : List Char) → (position : Nat) →
    Option Found
  | before, [], position => wanted? true position (p.matchLength? before [])
  | before, c :: cs, position =>
    match p.matchLength? before (c :: cs) with
    | none => p.resumedMatch (some c) cs (position + c.utf8Size)
    | some 0 => p.resumedMatch none cs (position + c.utf8Size)
    | some (n + 1) => some ⟨position, position + (n + 1)⟩

/-- Up to the first match both ways are the same. If it is empty, the text starts anew behind the
character there. -/
theorem resumedMatch_cases (p : Pattern) (before : Option Char) (rest : List Char)
    (position : Nat) :
    (p.firstMatch false before rest position = none ∧
        p.resumedMatch before rest position = none) ∨
      (∃ f, p.firstMatch false before rest position = some f ∧ f.start < f.stop ∧
        p.resumedMatch before rest position = some f) ∨
      ∃ u post, rest = u ++ post ∧
        p.firstMatch false before rest position =
          some ⟨position + size u, position + size u⟩ ∧
        p.resumedMatch before rest position =
          match post with
          | [] => none
          | c :: cs => p.resumedMatch none cs (position + size u + c.utf8Size) := by
  induction rest generalizing before position with
  | nil =>
    rw [firstMatch, resumedMatch]
    cases hlength : p.matchLength? before [] with
    | none => exact .inl ⟨rfl, rfl⟩
    | some n =>
      cases n with
      | zero => exact .inr (.inr ⟨[], [], rfl, rfl, rfl⟩)
      | succ n =>
        refine .inr (.inl ⟨⟨position, position + (n + 1)⟩, rfl, ?_, rfl⟩)
        dsimp only
        omega
  | cons c cs ih =>
    rw [firstMatch, resumedMatch]
    cases hlength : p.matchLength? before (c :: cs) with
    | none =>
      -- nothing matches here, and both go on behind the character
      rcases ih (some c) (position + c.utf8Size) with
        hnone | hfound | ⟨u, post, rfl, hfirst, hresumed⟩
      · exact .inl hnone
      · exact .inr (.inl hfound)
      · refine .inr (.inr ⟨c :: u, post, rfl, ?_, ?_⟩)
        · rw [size_cons, ← Nat.add_assoc]
          exact hfirst
        · rw [size_cons, ← Nat.add_assoc]
          exact hresumed
    | some n =>
      cases n with
      | zero => exact .inr (.inr ⟨[], c :: cs, rfl, rfl, rfl⟩)
      | succ n =>
        refine .inr (.inl ⟨⟨position, position + (n + 1)⟩, rfl, ?_, rfl⟩)
        dsimp only
        omega

/-- To ask anew behind every empty match is to let the text start there. -/
theorem findNonEmptyFrom_eq (p : Pattern) {budget : Nat} (pre : List Char)
    (h : rest.length < budget) :
    p.findNonEmptyFrom (pre ++ rest) budget (size pre) = p.resumedMatch none rest (size pre) := by
  induction budget generalizing pre rest with
  | zero => exact absurd h (Nat.not_lt_zero _)
  | succ budget ih =>
    rw [findNonEmptyFrom, find, dropTo?_append, Option.bind_some, firstIn_eq_firstMatch]
    rcases resumedMatch_cases p none rest (size pre) with
      ⟨hfirst, hresumed⟩ | ⟨f, hfirst, hlt, hresumed⟩ | ⟨u, post, rfl, hfirst, hresumed⟩
    · rw [hfirst, hresumed, Option.bind_none]
    · rw [hfirst, hresumed, Option.bind_some, if_pos hlt]
    · rw [hfirst, hresumed, Option.bind_some, if_neg (Nat.lt_irrefl _), ← size_append,
        ← List.append_assoc, dropTo?_append]
      cases post with
      | nil => rfl
      | cons c cs =>
        have hlength : cs.length < budget := by
          rw [List.length_append, List.length_cons] at h
          omega
        have hplace : size (pre ++ u) + c.utf8Size = size (pre ++ u ++ [c]) := by
          rw [size_append _ [c], size_cons, size_nil, Nat.add_zero]
        have hnext := ih (pre ++ u ++ [c]) hlength
        rw [List.append_assoc _ [c], List.singleton_append] at hnext
        dsimp only
        rw [hplace, hnext]

theorem findNonEmptyByFind_eq (p : Pattern) (text : List Char) (position : Nat) :
    p.findNonEmptyByFind text position =
      (dropTo? text position).bind fun rest => p.resumedMatch none rest position := by
  cases hrest : dropTo? text position with
  | none =>
    rw [findNonEmptyByFind, findNonEmptyFrom, find, hrest, Option.bind_none, Option.bind_none,
      Option.bind_none]
  | some rest =>
    obtain ⟨pre, rfl, rfl⟩ := dropTo?_eq_some_iff.1 hrest
    refine findNonEmptyFrom_eq p pre ?_
    rw [List.length_append]
    omega

/-! ## Where both ways agree -/

/-- Behind an empty match a match that is not empty does not depend on whether the character there
is seen. -/
def SeesAlike (p : Pattern) (text : List Char) : Prop :=
  ∀ u before c cs, text = u ++ c :: cs → p.matchLength? before (c :: cs) = some 0 →
    ∀ n, 0 < n → (p.matchLength? none cs = some n ↔ p.matchLength? (some c) cs = some n)

theorem SeesAlike.append {u : List Char} (h : p.SeesAlike (u ++ rest)) : p.SeesAlike rest := by
  rintro v before c cs rfl
  exact h (u ++ v) before c cs (List.append_assoc ..).symm

theorem seesAlike_of_looksBack (h : ∀ node ∈ p.automaton.nodes, node.looksBack = false)
    (text : List Char) : p.SeesAlike text := by
  intro u before c cs _ _ n _
  rw [matchLength?, matchLength?, Regex.Automaton.matchLength?_of_looksBack h none (some c)]

theorem wanted?_congr {length length' : Option Nat}
    (h : ∀ n, 0 < n → (length = some n ↔ length' = some n)) (position : Nat) :
    wanted? true position length = wanted? true position length' := by
  refine Option.ext fun f => ?_
  rw [wanted?_eq_some_iff, wanted?_eq_some_iff]
  constructor
  · rintro ⟨n, hn, hpos, rfl⟩
    exact ⟨n, (h n (hpos rfl)).1 hn, hpos, rfl⟩
  · rintro ⟨n, hn, hpos, rfl⟩
    exact ⟨n, (h n (hpos rfl)).2 hn, hpos, rfl⟩

/-- Where the character behind an empty match makes no difference, both ways find the same. They may
come to a place with different characters in sight, as long as that makes no difference there. -/
theorem resumedMatch_eq_firstMatch (hsees : p.SeesAlike rest)
    (h : ∀ n, 0 < n → (p.matchLength? before rest = some n ↔ p.matchLength? before' rest = some n))
    (position : Nat) :
    p.resumedMatch before rest position = p.firstMatch true before' rest position := by
  induction rest generalizing before before' position with
  | nil => exact wanted?_congr h position
  | cons c cs ih =>
    have hlater : p.SeesAlike cs := SeesAlike.append (u := [c]) hsees
    rw [resumedMatch, firstMatch, ← wanted?_congr h]
    cases hlength : p.matchLength? before (c :: cs) with
    | none => exact ih hlater (fun _ _ => Iff.rfl) _
    | some n =>
      cases n with
      | zero => exact ih hlater (hsees [] before c cs rfl hlength) _
      | succ n => rfl

theorem findNonEmptyByFind_of_seesAlike {text : List Char} (h : p.SeesAlike text) (position : Nat) :
    p.findNonEmptyByFind text position = p.findNonEmpty text position := by
  rw [findNonEmptyByFind_eq, findNonEmpty]
  cases hrest : dropTo? text position with
  | none => rfl
  | some rest =>
    obtain ⟨pre, rfl, rfl⟩ := dropTo?_eq_some_iff.1 hrest
    rw [Option.bind_some, Option.bind_some, firstIn_eq_firstMatch]
    exact resumedMatch_eq_firstMatch h.append (fun _ _ => Iff.rfl) _

theorem findNonEmptyByFind_of_full {text : List Char}
    (h : ∀ f, p.find text position = some f → f.start < f.stop) :
    p.findNonEmptyByFind text position = p.findNonEmpty text position := by
  rw [findNonEmpty_eq_find h, findNonEmptyByFind, findNonEmptyFrom]
  cases hfind : p.find text position with
  | none => rfl
  | some f => rw [Option.bind_some, if_pos (h f hfind)]

/-- **Two ways to the first match that is not empty.** To ask for the first match, and anew behind
every empty one, is to search a text that starts behind every empty match; it always comes to an
end. It finds what a search does that sees all it passes, if the first match is not empty, or if no
match that is not empty depends on seeing the character behind an empty one; so it does for every
pattern without assertions that look back. -/
theorem findNonEmptyByFind_resumes (p : Pattern) (text : List Char) (position : Nat) :
    p.findNonEmptyByFind text position =
        (dropTo? text position).bind (fun rest => p.resumedMatch none rest position) ∧
      ((∀ f, p.find text position = some f → f.start < f.stop) →
        p.findNonEmptyByFind text position = p.findNonEmpty text position) ∧
      (p.SeesAlike text →
        p.findNonEmptyByFind text position = p.findNonEmpty text position) ∧
      ((∀ node ∈ p.automaton.nodes, node.looksBack = false) →
        p.findNonEmptyByFind text position = p.findNonEmpty text position) :=
  ⟨findNonEmptyByFind_eq p text position, findNonEmptyByFind_of_full,
    fun h => findNonEmptyByFind_of_seesAlike h position,
    fun h => findNonEmptyByFind_of_seesAlike (seesAlike_of_looksBack h text) position⟩

/-- A pattern that does not look back passes empty matches; one that does finds a match at once. -/
theorem findNonEmptyByFind_resumes_letters :
    ∃ p q, compile? "x*" {} = some p ∧ (∀ node ∈ p.automaton.nodes, node.looksBack = false) ∧
      p.find "ab xx".toList 0 = some ⟨0, 0⟩ ∧ p.findNonEmpty "ab xx".toList 0 = some ⟨3, 5⟩ ∧
      p.findNonEmptyByFind "ab xx".toList 0 = some ⟨3, 5⟩ ∧
      compile? "\\bb|" {} = some q ∧
      (∀ f, q.find "b".toList 0 = some f → f.start < f.stop) ∧
      q.findNonEmpty "b".toList 0 = some ⟨0, 1⟩ ∧
      q.findNonEmptyByFind "b".toList 0 = some ⟨0, 1⟩ := by
  have hrun : ((compile? "x*" {}).bind fun p => (compile? "\\bb|" {}).map fun q =>
      (p.automaton.nodes.toList.map Regex.Node.looksBack, p.find "ab xx".toList 0,
        p.findNonEmpty "ab xx".toList 0, q.find "b".toList 0, q.findNonEmpty "b".toList 0)) =
      some ([false, false, false], some ⟨0, 0⟩, some ⟨3, 5⟩, some ⟨0, 1⟩, some ⟨0, 1⟩) := by
    decide +kernel
  obtain ⟨p, hp, hrun⟩ := Option.bind_eq_some_iff.1 hrun
  obtain ⟨q, hq, hvalues⟩ := Option.map_eq_some_iff.1 hrun
  simp only [Prod.mk.injEq] at hvalues
  obtain ⟨hnodes, hfind, hnonEmpty, hfull, hnonEmpty'⟩ := hvalues
  have hlooks : ∀ node ∈ p.automaton.nodes, node.looksBack = false := by
    intro node hnode
    have hmem := List.mem_map_of_mem (f := Regex.Node.looksBack) (Array.mem_toList_iff.2 hnode)
    rw [hnodes] at hmem
    simpa using hmem
  have hlt : ∀ f, q.find "b".toList 0 = some f → f.start < f.stop := by
    intro f hf
    rw [hfull] at hf
    cases hf
    decide
  obtain ⟨-, -, -, hp'⟩ := findNonEmptyByFind_resumes p "ab xx".toList 0
  obtain ⟨-, hq', -, -⟩ := findNonEmptyByFind_resumes q "b".toList 0
  exact ⟨p, q, hp, hlooks, hfind, hnonEmpty, (hp' hlooks).trans hnonEmpty, hq, hlt, hnonEmpty',
    (hq' hlt).trans hnonEmpty'⟩

/-- Behind the empty match at the start, one way sees the letter there, so no word starts, and finds
nothing. For the other the text starts there, and so does a word. -/
theorem findNonEmpty_ne_byFind :
    ∃ p, compile? "\\bb|" {} = some p ∧ p.findNonEmpty "ab".toList 0 = none ∧
      p.findNonEmptyByFind "ab".toList 0 = some ⟨1, 2⟩ := by
  have hrun : ((compile? "\\bb|" {}).map fun p =>
      (p.findNonEmpty "ab".toList 0, p.findNonEmptyByFind "ab".toList 0)) =
      some (none, some ⟨1, 2⟩) := by
    decide +kernel
  obtain ⟨p, hp, hvalues⟩ := Option.map_eq_some_iff.1 hrun
  obtain ⟨hnone, hsome⟩ := Prod.mk.inj hvalues
  exact ⟨p, hp, hnone, hsome⟩

end Pattern

end Tint
