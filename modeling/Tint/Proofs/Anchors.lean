import Tint.Proofs.Compile
import Tint.Proofs.Search

/-!
# Anchors and single characters

What the shortest patterns find. The automaton of an assertion has one node to pass and one to end
in, so it matches the empty text where the assertion holds, and nothing elsewhere
(`matchLength?_look`). That of a single character matches this character (`matchLength?_literal`).

**Starts (`find_caret`).** A search does not see what comes before the place that it is made from,
so the text and its first line start there. There `^` matches, whatever the flags are.

**Ends (`exists_find_dollar`).** At the end of the text `$` matches, if not at the end of a line
before. So a search for it never fails.
-/

namespace Tint

open Text

namespace Regex.Automaton

variable {before : Option Char} {rest : List Char}

theorem matchLength?_look (a : Look) (before : Option Char) (rest : List Char) :
    (ofTerm (.look a)).matchLength? before rest =
      if a.holds before rest.head? then some 0 else none := by
  have hautomaton : ofTerm (.look a) = ⟨#[.accept, .look a 0], 1, 4⟩ := rfl
  rw [hautomaton, matchLength?]
  by_cases h : a.holds before rest.head? = true
  · rw [if_pos h]
    cases rest <;> simp_all [enter, Frontier.start, run, advance, accepts]
  · rw [if_neg h]
    simp [enter, Frontier.start, h, run_nil_threads]

theorem matchLength?_literal (x : Char) (before : Option Char) (rest : List Char) :
    (ofTerm (.literal [x])).matchLength? before rest =
      if rest.head? = some x then some x.utf8Size else none := by
  have hautomaton : ofTerm (.literal [x]) = ⟨#[.accept, .char x 0], 1, 3⟩ := rfl
  rw [hautomaton, matchLength?]
  cases rest with
  | nil => simp [enter, Frontier.start, run, accepts]
  | cons c cs =>
    by_cases h : x = c
    · subst h
      cases cs <;> simp [enter, Frontier.start, run, advance, accepts]
    · simp [enter, Frontier.start, run, advance, h, Ne.symm h]

end Regex.Automaton

namespace Pattern

variable {p : Pattern} {options : PatternOptions} {text : List Char} {position : Nat}

/-! ## Starts -/

theorem find_caret (h : Pattern.compile? "^" options = some p) (hplace : IsPlace text position) :
    p.find text position = some ⟨position, position⟩ := by
  obtain ⟨rest, hrest⟩ := isPlace_iff_dropTo?.1 hplace
  have hholds : (Regex.Assertion.lineStart.look (flags options)).holds none rest.head? = true := by
    obtain ⟨ignoreCase, multiLine⟩ := options
    cases multiLine <;> rfl
  have hautomaton :
      p.automaton = .ofTerm (.look (Regex.Assertion.lineStart.look (flags options))) :=
    automaton_of_compile? (e := .assertion .lineStart) h rfl rfl
  have hmatch : p.matchLength? none rest = some 0 := by
    rw [matchLength?, hautomaton, Regex.Automaton.matchLength?_look, if_pos hholds]
  rw [find, hrest, Option.bind_some, firstIn_eq_firstMatch, firstMatch_eq, hmatch]
  rfl

/-! ## Ends -/

/-- What matches at the end of every text is found from everywhere. -/
theorem exists_firstMatch (h : ∀ before, p.matchLength? before [] = some 0)
    (before : Option Char) (rest : List Char) (position : Nat) :
    ∃ f, p.firstMatch false before rest position = some f := by
  induction rest generalizing before position with
  | nil => exact ⟨⟨position, position⟩, by rw [firstMatch, h]; rfl⟩
  | cons c cs ih =>
    rw [firstMatch]
    split
    · next f _ => exact ⟨f, rfl⟩
    · exact ih (some c) (position + c.utf8Size)

theorem exists_find_dollar (h : Pattern.compile? "$" options = some p)
    (hplace : IsPlace text position) : ∃ f, p.find text position = some f := by
  obtain ⟨rest, hrest⟩ := isPlace_iff_dropTo?.1 hplace
  have hautomaton : p.automaton = .ofTerm (.look (Regex.Assertion.lineEnd.look (flags options))) :=
    automaton_of_compile? (e := .assertion .lineEnd) h rfl rfl
  have hends : ∀ before, p.matchLength? before [] = some 0 := by
    intro before
    have hholds : (Regex.Assertion.lineEnd.look (flags options)).holds before none = true := by
      obtain ⟨ignoreCase, multiLine⟩ := options
      cases multiLine <;> rfl
    rw [matchLength?, hautomaton, Regex.Automaton.matchLength?_look]
    exact if_pos hholds
  obtain ⟨f, hf⟩ := exists_firstMatch hends none rest position
  refine ⟨f, ?_⟩
  rw [find, hrest, Option.bind_some, firstIn_eq_firstMatch, hf]

/-! ## Line feeds -/

theorem slice?_of_findNonEmpty_lineFeed {f : Found} (h : Pattern.compile? "\\n" {} = some p)
    (hf : p.findNonEmpty text position = some f) :
    f.stop = f.start + 1 ∧ slice? text f.start f.stop = some ['\n'] := by
  have hautomaton : p.automaton = .ofTerm (.literal ['\n']) :=
    automaton_of_compile? (e := .char '\n' false) h rfl rfl
  obtain ⟨rest, hrest, hfound⟩ := Option.bind_eq_some_iff.1 hf
  obtain ⟨pre, rfl, rfl⟩ := dropTo?_eq_some_iff.1 hrest
  rw [firstIn_eq_firstMatch] at hfound
  obtain ⟨u, before, post, n, rfl, hn, -, rfl⟩ := exists_matchLength?_of_firstMatch hfound
  rw [matchLength?, hautomaton, Regex.Automaton.matchLength?_literal] at hn
  split at hn
  · next hhead =>
    obtain ⟨cs, rfl⟩ : ∃ cs, post = '\n' :: cs := by
      cases post with
      | nil => cases hhead
      | cons c cs => exact ⟨cs, by rw [Option.some.inj hhead]⟩
    cases hn
    refine ⟨rfl, slice?_eq_some_iff.2 ⟨pre ++ u, cs, by simp, ?_, rfl⟩⟩
    rw [size_append]
  · cases hn

end Pattern

end Tint
