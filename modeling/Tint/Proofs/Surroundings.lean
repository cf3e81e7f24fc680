import Tint.Proofs.Weaving

/-!
# Own text and what surrounds it

The own text of a mode is classified where it stands: words are looked for in the whole text up to
the end of the own text, by their places there. What stands before the own text and behind it is
not seen all the same.

**Words (`nextWord?_of_slice?`).** Every search for a word starts at some place of the own text.
From there it goes as in the own text by itself, with all places moved to where the own text stands.

**Spans (`Mode.adds_of_slice?`).** So the spans that the own text adds to those that are there are
the spans of the own text by itself, moved likewise.
-/

namespace Tint

open Text

variable {text own fragment : List Char} {place start stop : Nat}

/-! ## Words -/

theorem Text.isPlace_append_add (pre rest : List Char) (n : Nat) :
    IsPlace (pre ++ rest) (size pre + n) ↔ IsPlace rest n := by
  rw [isPlace_iff_dropTo?, isPlace_iff_dropTo?, dropTo?_append_add]

theorem nextWord_append_add (lexems : List Pattern) (pre rest : List Char) (place : Nat) :
    nextWord lexems (pre ++ rest) (size pre + place) =
      (nextWord lexems rest place).map (Found.shift (size pre)) := by
  rw [nextWord, nextWord, dropTo?_append_add, Option.map_bind]
  congr 1
  funext later
  rw [Function.comp_apply, Option.map_map]
  congr 1
  funext cut
  simp only [Function.comp_apply, Strict.wordAt, Found.shift, Nat.add_assoc]

/-- The search for a word ends in the text up to the end of a stretch as it ends in the stretch by
itself. -/
theorem Strict.nextWord?_of_slice? (lexems : List Pattern)
    (hown : slice? text start stop = some own)
    (hfragment : takeTo? text stop = some fragment) (hplace : IsPlace own place) :
    ∃ answer, nextWord? lexems own (own.length + 1) place = some answer ∧
      nextWord? lexems fragment (fragment.length + 1) (start + place) =
        some (answer.map (Found.shift start)) := by
  obtain ⟨pre, post, rfl, rfl, rfl⟩ := slice?_eq_some_iff.1 hown
  rw [← size_append, takeTo?_append] at hfragment
  cases hfragment
  have hbehind : IsPlace (pre ++ own) (size pre + place) := (isPlace_append_add ..).2 hplace
  refine ⟨_, nextWord?_eq_nextWord hplace (Nat.lt_succ_self _), ?_⟩
  rw [nextWord?_eq_nextWord hbehind (Nat.lt_succ_self _), nextWord_append_add]

/-! ## Spans -/

namespace Mode

/-- What the stretch between two places adds, as own text of a mode, to any spans that are there
already. -/
structure Adds (m : Mode) (text : List Char) (start stop : Nat) (spans : List Span) : Prop where
  between : m.classifyBetween? text start stop = some spans
  push : ∀ out, Strict.push? m text start stop out = some (out ++ spans)

/-- A stretch adds what it adds by itself, moved to where it stands. -/
theorem adds_of_slice? (m : Mode) (hown : slice? text start stop = some own) :
    m.Adds text start stop ((m.classify own 0).map (Span.shift start)) := by
  have hshift : (m.classify own 0).map (Span.shift start) = m.classify own start :=
    (m.classify_shift own start 0).symm
  rw [hshift]
  constructor
  · rw [classifyBetween?]
    split
    · rw [hown, Option.map_some]
    · have hsize := size_of_slice? hown
      have hnil : own = [] := size_eq_zero.1 (by omega)
      rw [(m.classify_lays own start).eq_nil_iff.2 hnil]
  · intro out
    rw [Strict.push?_eq, Strict.classify?_eq m hown, Option.map_some]

/-- **Surroundings are not seen.** The own text between two places of a text adds the spans that it
adds as a text by itself, each of them moved to where the own text stands. Wherever the same own
text stands, in this text or another one, it adds these spans, moved to that place. Every word on
the way is searched for in the text up to the end of the own text, from a place of the own text on,
and is found where it is found in the own text by itself. -/
theorem adds_inside (m : Mode) (hlt : start < stop) (hstart : IsPlace text start)
    (hstop : IsPlace text stop) :
    ∃ own fragment spans, slice? text start stop = some own ∧ takeTo? text stop = some fragment ∧
      m.Adds own 0 (size own) spans ∧
      m.Adds text start stop (spans.map (Span.shift start)) ∧
      (∀ text' start' stop', slice? text' start' stop' = some own →
        m.Adds text' start' stop' (spans.map (Span.shift start'))) ∧
      ∀ place, IsPlace own place → ∃ answer,
        Strict.nextWord? m.lexems own (own.length + 1) place = some answer ∧
          Strict.nextWord? m.lexems fragment (fragment.length + 1) (start + place) =
            some (answer.map (Found.shift start)) := by
  obtain ⟨own, hown⟩ := exists_slice? hstart hstop (Nat.le_of_lt hlt)
  obtain ⟨fragment, hfragment⟩ : ∃ fragment, takeTo? text stop = some fragment := by
    obtain ⟨fragment, post, htext, hsize⟩ := hstop
    exact ⟨fragment, takeTo?_eq_some_iff.2 ⟨post, htext, hsize⟩⟩
  have hmoved : ∀ text' start' stop', slice? text' start' stop' = some own →
      m.Adds text' start' stop' ((m.classify own 0).map (Span.shift start')) :=
    fun _ _ _ => m.adds_of_slice?
  have halone : m.Adds own 0 (size own) (m.classify own 0) := by
    have h := hmoved own 0 (size own) (slice?_zero_size own)
    rwa [← m.classify_shift own 0 0] at h
  exact ⟨own, fragment, _, hown, hfragment, halone, hmoved text start stop hown, hmoved,
    fun place => Strict.nextWord?_of_slice? m.lexems hown hfragment⟩

end Mode

/-- One keyword, which no other characters of words may touch. -/
def lone : GrammarDefinition where
  name := "lone"
  defaultMode := (({} : ModeDefinition).withKeywords "keyword" ["for"]).cutting ["\\bfor\\b"]

/-- In the whole text a digit touches the word, but it stands behind the own text. -/
theorem Mode.adds_inside_lone :
    ∃ g, Grammar.compile "lone" lone = .ok g ∧
      g.defaultMode.classifyBetween? "7é for8".toList 0 8 = some [⟨"", "7é for8", 0⟩] ∧
      g.defaultMode.Adds "é for".toList 0 6 [⟨"", "é ", 0⟩, ⟨"keyword", "for", 3⟩] ∧
      g.defaultMode.Adds "7é for8".toList 1 7 [⟨"", "é ", 1⟩, ⟨"keyword", "for", 4⟩] ∧
      g.defaultMode.Adds "ééé for".toList 4 10 [⟨"", "é ", 4⟩, ⟨"keyword", "for", 7⟩] := by
  have hrun : ((Grammar.compile "lone" lone).toOption.map fun g =>
      (g.defaultMode.classifyBetween? "7é for8".toList 0 8,
        g.defaultMode.classifyBetween? "é for".toList 0 6)) =
      some (some [⟨"", "7é for8", 0⟩], some [⟨"", "é ", 0⟩, ⟨"keyword", "for", 3⟩]) := by
    decide +kernel
  obtain ⟨g, hg, hvalues⟩ := Option.map_eq_some_iff.1 hrun
  obtain ⟨hwhole, hown⟩ := Prod.mk.inj hvalues
  have hstart : IsPlace "7é for8".toList 1 := by decide
  have hstop : IsPlace "7é for8".toList 7 := by decide
  obtain ⟨own, _, spans, hslice, -, halone, hhere, hmoved, -⟩ :=
    g.defaultMode.adds_inside (by decide) hstart hstop
  obtain rfl : "é for".toList = own := by
    have hcut : slice? "7é for8".toList 1 7 = some "é for".toList := by decide
    exact Option.some.inj (hcut.symm.trans hslice)
  obtain rfl : spans = [⟨"", "é ", 0⟩, ⟨"keyword", "for", 3⟩] :=
    Option.some.inj (halone.between.symm.trans hown)
  exact ⟨g, Except.toOption_eq_some_iff.1 hg, hwhole, halone, hhere,
    hmoved "ééé for".toList 4 10 (by decide)⟩

end Tint
