import Tint.Proofs.Memo
import Tint.Proofs.Numbering
import Tint.Proofs.Wrapping.Matching

/-!
# What a memo answers

**Theorem (`answers_eq_searches`).** Ask a memo that holds nothing for any sequence of searches in
a text: any patterns of a grammar, in any order, from any places, forwards and backwards. Every
answer is that of the search itself.

**Two ways to try a place (`answerIn_eq_answer`).** A run has the text from the place on at hand,
and asks the automaton of the pattern there. Asked of the whole text, the match at a place is what
`matchAt` says, and the search is `find` or `findNonEmpty`. For patterns of a compiled grammar both
ways give the same answers, also when they are remembered.
-/

namespace Tint

open Text

variable {g : Grammar} {p : Pattern} {key : Slot.Key} {text rest : List Char} {position : Nat}

/-- The match that `matchAt` finds at a place, if the slot allows it. -/
def Pattern.attemptAt (p : Pattern) (slot : Slot) (text : List Char) (position : Nat) :
    Option Found :=
  ((p.matchAt text position).filter fun stop => slot.allowsEmpty || decide (position < stop)).map
    fun stop => ⟨position, stop⟩

theorem Pattern.startingAt_eq_attemptAt {source : String} {options : PatternOptions}
    (h : compile? source options = some p) (slot : Slot)
    (hrest : dropTo? text position = some rest) :
    p.startingAt slot rest position = p.attemptAt slot text position := by
  rw [startingAt_eq_matchAt h slot hrest, attemptAt, matchAt_eq h, hrest, Option.bind_some]
  cases p.matchLength? none rest with
  | none => rfl
  | some n => cases n <;> cases slot.allowsEmpty <;> simp [Option.filter]

theorem Grammar.compile?_of_pattern? {name : String} {d : GrammarDefinition}
    (h : compile name d = .ok g) (hp : g.pattern? key = some p) :
    Pattern.compile? p.source g.options = some p := by
  refine compile?_of_mem_patterns h (i := key.mode) ?_
  simp only [Mode.patterns, List.mem_append, Option.mem_toList]
  obtain ⟨mode, slot⟩ := key
  cases slot with
  | opener => exact .inl (.inl (.inl hp))
  | closer => exact .inl (.inl (.inr hp))
  | illegal => exact .inl (.inr hp)

namespace Memo

/-- The answer to a search of a text from a place. -/
def answerIn (last : Option Searched) (slot : Slot) (p : Pattern) (text : List Char)
    (position : Nat) : Option Found :=
  answerBy last position (fun _ => p.searchIn slot text position)
    fun _ => p.attemptAt slot text position

theorem answerIn_eq_answer {source : String} {options : PatternOptions}
    (h : Pattern.compile? source options = some p) (last : Option Searched) (slot : Slot)
    (hrest : dropTo? text position = some rest) :
    answerIn last slot p text position = answer last slot p rest position := by
  rw [answerIn, answer, p.searchIn_eq_searchFrom slot hrest,
    Pattern.startingAt_eq_attemptAt h slot hrest]

/-- Search a text from a place, and remember the answer. -/
def findIn (m : Memo) (key : Slot.Key) (p : Pattern) (text : List Char) (position : Nat) :
    Option Found × Memo :=
  let found := answerIn (m.get? key) key.slot p text position
  (found, m.put key { position, found })

theorem findIn_eq_find {source : String} {options : PatternOptions}
    (h : Pattern.compile? source options = some p) (m : Memo) (key : Slot.Key)
    (hrest : dropTo? text position = some rest) :
    m.findIn key p text position = m.find key p rest position := by
  rw [findIn, find, answerIn_eq_answer h _ _ hrest]

/-! ## Any sequence of searches -/

/-- A search that is asked for: a pattern with its key, and the place to search from. -/
structure Query where
  key : Slot.Key
  pattern : Pattern
  position : Nat

/-- The answers to queries in a text, each beside what those before it have left behind. -/
def answers (text : List Char) : Memo → List Query → List (Option Found)
  | _, [] => []
  | m, q :: qs =>
    match dropTo? text q.position with
    | some rest =>
      let (found, m) := m.find q.key q.pattern rest q.position
      found :: answers text m qs
    | none => none :: answers text m qs

theorem Sound.answers {m : Memo} {queries : List Query} (hm : m.Sound g text)
    (hq : ∀ q ∈ queries, g.pattern? q.key = some q.pattern ∧ IsPlace text q.position) :
    m.answers text queries =
      queries.map fun q => q.pattern.searchIn q.key.slot text q.position := by
  induction queries generalizing m with
  | nil => rfl
  | cons q qs ih =>
    obtain ⟨hp, hplace⟩ := hq q List.mem_cons_self
    obtain ⟨rest, hr⟩ := isPlace_iff_dropTo?.1 hplace
    obtain ⟨hfound, hsound⟩ := hm.find hp hr
    simp only [Memo.answers, hr, List.map_cons]
    rw [hfound, ih hsound fun q' hq' => hq q' (List.mem_cons_of_mem _ hq')]

/-- The answers to queries, each asked of the whole text. -/
def answersIn (text : List Char) : Memo → List Query → List (Option Found)
  | _, [] => []
  | m, q :: qs =>
    let (found, m) := m.findIn q.key q.pattern text q.position
    found :: answersIn text m qs

theorem answersIn_eq_answers {name : String} {d : GrammarDefinition}
    (h : Grammar.compile name d = .ok g) {queries : List Query}
    (hq : ∀ q ∈ queries, g.pattern? q.key = some q.pattern ∧ IsPlace text q.position) (m : Memo) :
    m.answersIn text queries = m.answers text queries := by
  induction queries generalizing m with
  | nil => rfl
  | cons q qs ih =>
    obtain ⟨hp, hplace⟩ := hq q List.mem_cons_self
    obtain ⟨rest, hr⟩ := isPlace_iff_dropTo?.1 hplace
    simp only [answersIn, answers, hr]
    rw [findIn_eq_find (Grammar.compile?_of_pattern? h hp) m q.key hr,
      ih fun q' hq' => hq q' (List.mem_cons_of_mem _ hq')]

/-- **A memo is transparent.** Whatever is asked for in whatever order, every answer is that of the
search itself: the first match for what closes a mode, the first that is not empty for what opens
one or is forbidden in it. If the grammar is a compiled one, the memo may as well be asked with the
whole text, and try a place with `matchAt`. -/
theorem answers_eq_searches (g : Grammar) (text : List Char) (queries : List Query)
    (hq : ∀ q ∈ queries, g.pattern? q.key = some q.pattern ∧ IsPlace text q.position) :
    (empty.answers text queries =
      queries.map fun q =>
        match q.key.slot with
        | .closer => q.pattern.find text q.position
        | .opener | .illegal => q.pattern.findNonEmpty text q.position) ∧
    ∀ name d, Grammar.compile name d = .ok g →
      empty.answersIn text queries =
        queries.map fun q =>
          match q.key.slot with
          | .closer => q.pattern.find text q.position
          | .opener | .illegal => q.pattern.findNonEmpty text q.position := by
  have hanswers := (sound_empty g text).answers hq
  exact ⟨hanswers, fun _ _ h => (answersIn_eq_answers h hq empty).trans hanswers⟩

/-- The queries for keys of a grammar, each from its place. -/
def queriesFor (g : Grammar) (asked : List (Slot.Key × Nat)) : List Query :=
  asked.filterMap fun a => (g.pattern? a.1).map fun p => ⟨a.1, p, a.2⟩

theorem spec_of_mem_queriesFor {asked : List (Slot.Key × Nat)} {q : Query}
    (hq : q ∈ queriesFor g asked) :
    g.pattern? q.key = some q.pattern ∧ (q.key, q.position) ∈ asked := by
  obtain ⟨a, ha, hq⟩ := List.mem_filterMap.1 hq
  obtain ⟨p, hp, rfl⟩ := Option.map_eq_some_iff.1 hq
  exact ⟨hp, ha⟩

/-- Searches for what opens blocks, closes them and is forbidden in them, going back and forth. -/
theorem answers_eq_searches_blocks :
    ∃ g queries, Grammar.compile "blocks" Grammar.blocks = .ok g ∧
      queries = queriesFor g [(⟨1, .opener⟩, 0), (⟨1, .opener⟩, 2), (⟨1, .closer⟩, 1),
        (⟨1, .opener⟩, 0), (⟨1, .illegal⟩, 3), (⟨1, .closer⟩, 4)] ∧
      empty.answers "a\x7b;\x7d\x7b".toList queries =
        [some ⟨1, 2⟩, some ⟨4, 5⟩, some ⟨3, 4⟩, some ⟨1, 2⟩, none, none] ∧
      empty.answersIn "a\x7b;\x7d\x7b".toList queries =
        [some ⟨1, 2⟩, some ⟨4, 5⟩, some ⟨3, 4⟩, some ⟨1, 2⟩, none, none] ∧
      queries.map (fun q =>
          match q.key.slot with
          | .closer => q.pattern.find "a\x7b;\x7d\x7b".toList q.position
          | .opener | .illegal => q.pattern.findNonEmpty "a\x7b;\x7d\x7b".toList q.position) =
        [some ⟨1, 2⟩, some ⟨4, 5⟩, some ⟨3, 4⟩, some ⟨1, 2⟩, none, none] := by
  have hrun : ((Grammar.compile "blocks" Grammar.blocks).toOption.map fun g =>
      empty.answers "a\x7b;\x7d\x7b".toList (queriesFor g [(⟨1, .opener⟩, 0), (⟨1, .opener⟩, 2),
        (⟨1, .closer⟩, 1), (⟨1, .opener⟩, 0), (⟨1, .illegal⟩, 3), (⟨1, .closer⟩, 4)])) =
      some [some ⟨1, 2⟩, some ⟨4, 5⟩, some ⟨3, 4⟩, some ⟨1, 2⟩, none, none] := by
    decide +kernel
  obtain ⟨g, hg, hanswers⟩ := Option.map_eq_some_iff.1 hrun
  rw [Except.toOption_eq_some_iff] at hg
  have hplace : ∀ a ∈ [((⟨1, .opener⟩ : Slot.Key), 0), (⟨1, .opener⟩, 2), (⟨1, .closer⟩, 1),
      (⟨1, .opener⟩, 0), (⟨1, .illegal⟩, 3), (⟨1, .closer⟩, 4)],
      IsPlace "a\x7b;\x7d\x7b".toList a.2 := by
    decide
  obtain ⟨hsearches, hasked⟩ := answers_eq_searches g _ _ fun q hq =>
    (spec_of_mem_queriesFor hq).imp_right (hplace (q.key, q.position))
  rw [hanswers] at hsearches
  exact ⟨g, _, hg, rfl, hanswers, (hasked _ _ hg).trans hsearches.symm, hsearches.symm⟩

end Memo

end Tint
