import Tint.Lexer.Memo
import Tint.Proofs.Compile
import Tint.Proofs.Search
import Tint.Proofs.Wrapping.Reading
import Tint.Proofs.Wrapping.Threads

/-!
# Matches that start at a place

There are two ways to ask whether a pattern matches at a place. `matchAtByFind` searches from there
on and looks where the match starts. `matchAt` asks a second automaton, made from the pattern's text
in a group behind the start of the text; a pattern that has none is asked in the first way.

**Second automaton (`anchored_of_compile?`).** It is the first one with an assertion in front: the
text is read as it is without the parentheses, and a group that sets no flag means what is in it.

**Searching with it (`firstMatch_bound`).** The assertion holds at the place of the search and at no
later one, so only there something is found.

**Searching without it (`find_eq_some_iff`).** The search looks at its own place first, and what it
finds later starts later.

**Theorem (`matchAt_eq_some_iff`).** So both ways agree, and what a memo tries at a place is what
`matchAt` says (`startingAt_eq_matchAt`).
-/

namespace Tint

open Text

namespace Regex

theorem meaning?_anchored {flags : Flags} {e : Expr} {t : Term} (h : e.meaning? flags = some t) :
    (Expr.concat [.assertion .textStart, .group {} e]).meaning? flags =
      some (.ofSequence [.look .textStart, t]) := by
  obtain ⟨⟨t, after⟩, hterm, rfl⟩ := Option.map_eq_some_iff.1 h
  have hflags : flags.update {} = flags := rfl
  simp only [Expr.meaning?, Expr.term?, Expr.terms?, Option.bind_some, Option.map_some, hflags,
    hterm]
  rfl

end Regex

namespace Pattern

variable {p : Pattern} {source : String} {options : PatternOptions} {text rest : List Char}
  {position stop : Nat}

/-- The second automaton of a pattern is the first one behind the start of the text. -/
theorem anchored_of_compile? (h : compile? source options = some p) :
    p.automaton.Sound ∧
      (p.anchored = none ∨ p.anchored = some (p.automaton.behind .textStart)) := by
  obtain ⟨e, t, he, ht, -, rfl⟩ := compile?_eq_some_iff.1 h
  refine ⟨Regex.Automaton.sound_ofTerm t, ?_⟩
  dsimp only
  rw [← Regex.Automaton.ofTerm_look]
  cases hanchored : automaton? (anchoredSource source) options with
  | none => exact .inl rfl
  | some a =>
    obtain ⟨e', t', he', ht', -, rfl⟩ := automaton?_eq_some_iff.1 hanchored
    rcases Regex.read?_anchoredSource he with hnone | hsome
    · cases hnone.symm.trans he'
    · cases hsome.symm.trans he'
      cases (Regex.meaning?_anchored ht).symm.trans ht'
      exact .inr rfl

/-! ## Searches -/

/-- The pattern with an automaton that is bound to the start of the text. -/
def bound (p : Pattern) : Pattern := { p with automaton := p.automaton.behind .textStart }

theorem matchLength?_bound (hp : p.automaton.Sound) (before : Option Char) (rest : List Char) :
    p.bound.matchLength? before rest = if before.isNone then p.matchLength? before rest else none :=
  hp.matchLength?_behind .textStart rest

theorem matchAt_of_anchored (h : p.anchored = some (p.automaton.behind .textStart))
    (text : List Char) (position : Nat) :
    p.matchAt text position = (dropTo? text position).bind fun rest =>
      (p.bound.firstIn false rest position).map (·.stop) := by
  unfold matchAt
  split
  · next a ha =>
    cases h.symm.trans ha
    rfl
  · next hnone => cases h.symm.trans hnone

/-- Behind a character nothing is found. -/
theorem firstMatch_bound_some (hp : p.automaton.Sound) (c : Char) (rest : List Char)
    (position : Nat) : p.bound.firstMatch false (some c) rest position = none := by
  induction rest generalizing c position with
  | nil =>
    rw [firstMatch, matchLength?_bound hp]
    rfl
  | cons d rest ih =>
    rw [firstMatch, matchLength?_bound hp]
    exact ih d _

/-- Only at the place of the search itself something is found. -/
theorem firstMatch_bound (hp : p.automaton.Sound) (rest : List Char) (position : Nat) :
    p.bound.firstMatch false none rest position =
      wanted? false position (p.matchLength? none rest) := by
  have hlater : p.bound.laterMatch false rest position = none := by
    cases rest with
    | nil => rfl
    | cons c rest => exact firstMatch_bound_some hp c rest _
  rw [firstMatch_eq, hlater, Option.or_none, matchLength?_bound hp]
  rfl

theorem lt_start_of_laterMatch {nonEmpty : Bool} {f : Found}
    (h : p.laterMatch nonEmpty rest position = some f) : position < f.start := by
  cases rest with
  | nil => cases h
  | cons c rest =>
    obtain ⟨u, w, post, -, hstart, -⟩ := exists_append_of_firstMatch h
    have hc := c.utf8Size_pos
    omega

theorem find_eq_some_iff :
    p.find text position = some ⟨position, stop⟩ ↔
      ∃ rest, dropTo? text position = some rest ∧
        ∃ n, p.matchLength? none rest = some n ∧ position + n = stop := by
  rw [find, Option.bind_eq_some_iff]
  refine exists_congr fun rest => and_congr_right fun _ => ?_
  rw [firstIn_eq_firstMatch, firstMatch_eq]
  cases hlength : p.matchLength? none rest with
  | some n => simp [wanted?]
  | none =>
    constructor
    · intro hlater
      exact absurd (lt_start_of_laterMatch hlater) (Nat.lt_irrefl _)
    · rintro ⟨n, hn, -⟩
      cases hn

theorem matchAtByFind_eq_some_iff :
    p.matchAtByFind text position = some stop ↔ p.find text position = some ⟨position, stop⟩ := by
  rw [matchAtByFind, Option.bind_eq_some_iff]
  constructor
  · rintro ⟨⟨start, stop⟩, hfind, h⟩
    split at h
    · next hstart =>
      cases h
      cases hstart
      exact hfind
    · cases h
  · intro hfind
    exact ⟨_, hfind, if_pos rfl⟩

/-- A pattern matches at a place as it does at the start of a text. -/
theorem matchAt_eq (h : compile? source options = some p) (text : List Char) (position : Nat) :
    p.matchAt text position = (dropTo? text position).bind fun rest =>
      (p.matchLength? none rest).map (position + ·) := by
  obtain ⟨hsound, hanchored⟩ := anchored_of_compile? h
  rcases hanchored with hnone | hsome
  · refine Option.ext fun stop => ?_
    rw [matchAt, hnone]
    dsimp only
    rw [matchAtByFind_eq_some_iff, find_eq_some_iff, Option.bind_eq_some_iff]
    simp only [Option.map_eq_some_iff]
  · rw [matchAt_of_anchored hsome]
    refine Option.bind_congr fun rest _ => ?_
    rw [firstIn_eq_firstMatch, firstMatch_bound hsound]
    cases p.matchLength? none rest <;> rfl

/-- What a memo tries at a place is the match that starts there, unless it is empty and must not
be. -/
theorem startingAt_eq_matchAt (h : compile? source options = some p) (slot : Slot)
    (hrest : dropTo? text position = some rest) :
    p.startingAt slot rest position = (p.matchAt text position).bind fun stop =>
      if !slot.allowsEmpty && stop == position then none else some ⟨position, stop⟩ := by
  rw [matchAt_eq h, hrest, Option.bind_some, startingAt]
  cases p.matchLength? none rest <;> simp [wanted?]

/-- **Asking at a place and searching from it agree.** Take any pattern, whether or not its text can
be put in parentheses. At any place of any text, and also where there is none, `matchAt` says that a
match stops somewhere exactly when the search from there on finds that match at the place itself. -/
theorem matchAt_eq_some_iff (h : compile? source options = some p) (text : List Char)
    (position stop : Nat) :
    p.matchAt text position = some stop ↔ p.find text position = some ⟨position, stop⟩ := by
  rw [matchAt_eq h, find_eq_some_iff, Option.bind_eq_some_iff]
  simp only [Option.map_eq_some_iff]

/-- A pattern that ends in a comment has no second automaton, one that ignores blanks and has no
comment has one. The latter is asked before a word, at the end of a line, inside a character, and
behind the end of the text. -/
theorem matchAt_eq_some_iff_letters :
    ∃ p q, compile? "(?x) a # letter" {} = some p ∧ p.anchored.isSome = false ∧
      compile? "(?x) a | ab | $" {} = some q ∧ q.anchored.isSome = true ∧
      (p.matchAt "ba".toList 1 = some 2 ↔ p.find "ba".toList 1 = some ⟨1, 2⟩) ∧
      [0, 1].map (p.matchAt "ba".toList) = [none, some 2] ∧
      (q.matchAt "éab\nc".toList 2 = some 3 ↔ q.find "éab\nc".toList 2 = some ⟨2, 3⟩) ∧
      [2, 4, 1, 9].map (q.matchAt "éab\nc".toList) = [some 3, some 4, none, none] := by
  have hrun : ((compile? "(?x) a # letter" {}).bind fun p =>
      (compile? "(?x) a | ab | $" {}).map fun q => (p.anchored.isSome, q.anchored.isSome,
        [0, 1].map (p.matchAt "ba".toList), [2, 4, 1, 9].map (q.matchAt "éab\nc".toList))) =
      some (false, true, [none, some 2], [some 3, some 4, none, none]) := by
    decide +kernel
  obtain ⟨p, hp, hq⟩ := Option.bind_eq_some_iff.1 hrun
  obtain ⟨q, hq, hvalues⟩ := Option.map_eq_some_iff.1 hq
  simp only [Prod.mk.injEq] at hvalues
  obtain ⟨hnone, hsome, hplaces, hplaces'⟩ := hvalues
  exact ⟨p, q, hp, hnone, hq, hsome, matchAt_eq_some_iff hp _ _ _, hplaces,
    matchAt_eq_some_iff hq _ _ _, hplaces'⟩

end Pattern

end Tint
