import Tint.Proofs.Detection
import Tint.Proofs.Relevance

/-!
# A grammar that fails is chosen last

A grammar that cannot read a text has the same score as one that reads it and weighs it at nothing.
So a grammar that fails could be taken for the best one, unless reading to the end is worth
something.

**Scores (`Grammar.one_le_score_iff`).** It is, where the default mode weighs one at least and no
mode weighs less than nothing: what is opened on the way takes nothing away from the default mode.
Then a score is one at least if the grammar reads the text to its end, and nothing otherwise.

**Theorem (`detect_rejects_last`).** The score that is chosen is not lower than any other, so if one
grammar reads the text, the one that is chosen does. If none does, no score is higher than that of
the first grammar, and nothing takes its place.
-/

namespace Tint

namespace Grammar

variable {g : Grammar} {text : String} {options : LexOptions}

/-- The grammar reads the text to its end. -/
def Accepts (g : Grammar) (text : String) (options : LexOptions) : Prop :=
  ∃ out, g.lex text options = .ok out

/-- A compiled grammar with relevances of 32 bits, whose default mode weighs something, and none of
whose modes weighs less than nothing. -/
structure Weighs (g : Grammar) : Prop where
  compiled : ∃ name d, compile name d = .ok g ∧ d.FitsRelevance
  defaultMode : 1 ≤ g.defaultMode.relevance
  modes : ∀ m ∈ g.modes, 0 ≤ m.relevance

theorem Weighs.mode_nonneg (h : g.Weighs) (i : Nat) : 0 ≤ (g.mode i).relevance := by
  rcases List.mem_cons.1 (mode_mem_allModes g i) with hdefault | hmode
  · have hweight := h.defaultMode
    rw [hdefault]
    omega
  · exact h.modes _ hmode

theorem score_of_rejects (h : ¬g.Accepts text options) : (g.score text options).relevance = 0 := by
  cases hlex : g.lex text options with
  | ok out => exact absurd ⟨out, hlex⟩ h
  | error e => exact ((g.scoresAs_score text options).error e hlex).1

/-- A score is one at least just when the grammar reads the text to its end. -/
theorem one_le_score_iff (h : g.Weighs) :
    1 ≤ (g.score text options).relevance ↔ g.Accepts text options := by
  constructor
  · intro hscore
    by_contra hrejects
    rw [score_of_rejects hrejects] at hscore
    omega
  · rintro ⟨out, hlex⟩
    have hdefault := h.defaultMode
    have hweight := relevance_defaultMode_le h.mode_nonneg hlex
    rw [((g.scoresAs_score text options).ok out hlex).1]
    omega

end Grammar

theorem exists_cut_of_scores {grammars : List Grammar} {text : String} {options : LexOptions}
    {before after : List LanguageScore} {s : LanguageScore}
    (h : (grammars.map fun g => g.score text options) = before ++ s :: after) :
    ∃ bs g as, grammars = bs ++ g :: as ∧ (bs.map fun g => g.score text options) = before ∧
      g.score text options = s ∧ (as.map fun g => g.score text options) = after := by
  obtain ⟨bs, rest, rfl, hbs, hrest⟩ := List.map_eq_append_iff.1 h
  obtain ⟨g, as, rfl, hg, has⟩ := List.map_eq_cons_iff.1 hrest
  exact ⟨bs, g, as, rfl, hbs, hg, has⟩

/-- **A grammar that fails is chosen only where all fail.** Take grammars whose default modes weigh
one at least and whose other modes do not weigh less than nothing, and a text that is not too long.
The grammar that is chosen is the first one with the highest score. If some grammar reads the text
to its end, this one does, and its relevance is one at least; if none does, this is the first
grammar, with no relevance. Whatever is summed up on the way fits into 64 bits. -/
theorem detect_rejects_last {grammars : List Grammar} (hne : grammars ≠ [])
    (hweighs : ∀ g ∈ grammars, g.Weighs) {text : String} (hsize : Text.size text.toList < 2 ^ 32)
    (options : LexOptions) :
    ∃ d before best after, detect text grammars options = .ok d ∧
      grammars = before ++ best :: after ∧
      FirstBest (before.map fun g => g.score text options) (best.score text options)
        (after.map fun g => g.score text options) ∧
      d.language = best.name ∧ d.relevance = (best.score text options).relevance ∧
      ((∃ g ∈ grammars, g.Accepts text options) →
        best.Accepts text options ∧ 1 ≤ d.relevance) ∧
      ((∀ g ∈ grammars, ¬g.Accepts text options) → before = [] ∧ d.relevance = 0) ∧
      ∀ g ∈ grammars, ∀ s spans relevance,
        Lexer.Gives (g.job text options) s spans relevance →
          -2 ^ 63 ≤ relevance ∧ relevance < 2 ^ 63 := by
  obtain ⟨first, rest, rfl⟩ := List.exists_cons_of_ne_nil hne
  obtain ⟨before, after, hcut, hbest⟩ := Detection.firstBest_highest (first.score text options)
    (rest.map fun g => g.score text options)
  have hmap : ((first :: rest).map fun g => g.score text options) = before ++ _ :: after := hcut
  obtain ⟨bs, best, as, hgrammars, hbs, hscore, has⟩ := exists_cut_of_scores hmap
  rw [← hscore, ← hbs, ← has] at hbest
  have hmem : best ∈ first :: rest := by
    rw [hgrammars]
    simp
  have hscores : ((first :: rest).map fun g => g.score text options) =
      (bs.map fun g => g.score text options) ++ best.score text options ::
        as.map fun g => g.score text options := by
    rw [hgrammars, List.map_append, List.map_cons]
  refine ⟨_, bs, best, as, Detection.ofScores_eq hscores hbest, hgrammars, hbest,
    (best.scoresAs_score text options).language, rfl, ?_, ?_, ?_⟩
  · rintro ⟨g, hg, haccepts⟩
    have hone := (Grammar.one_le_score_iff (hweighs g hg)).2 haccepts
    have hle : (g.score text options).relevance ≤ (best.score text options).relevance :=
      hbest.le (hscores ▸ List.mem_map_of_mem hg)
    have hbestOne : 1 ≤ (best.score text options).relevance := by omega
    exact ⟨(Grammar.one_le_score_iff (hweighs best hmem)).1 hbestOne, hbestOne⟩
  · intro hrejects
    have hzero := Grammar.score_of_rejects (hrejects best hmem)
    refine ⟨?_, hzero⟩
    -- a score before the best one would be lower than it, but all of them are nothing
    cases bs with
    | nil => rfl
    | cons b bs =>
      have hlt := hbest.before_lt _ (List.mem_map_of_mem List.mem_cons_self)
      rw [hzero, Grammar.score_of_rejects (hrejects b (by rw [hgrammars]; simp))] at hlt
      omega
  · intro g hg s spans relevance hgives
    obtain ⟨name, d, hcompile, hfits⟩ := (hweighs g hg).compiled
    exact Grammar.fits_of_gives hcompile hfits hsize hgives

/-- Of two grammars the second one reads the text, so it is chosen. With a budget of one transition
both fail, and the first one is. -/
theorem detect_rejects_last_letters :
    ∃ a b d d', Grammar.compile "blocks" Grammar.blocks = .ok a ∧
      Grammar.compile "letters" Grammar.letters = .ok b ∧ [a, b] ≠ [] ∧
      (∀ g ∈ [a, b], g.Weighs) ∧ Text.size "x\x7b;".toList < 2 ^ 32 ∧
      ¬a.Accepts "x\x7b;" {} ∧ b.Accepts "x\x7b;" {} ∧
      detect "x\x7b;" [a, b] {} = .ok d ∧ 1 ≤ d.relevance ∧
      (∀ g ∈ [a, b], ¬g.Accepts "x\x7b;" { stepLimit := some 1 }) ∧
      detect "x\x7b;" [a, b] { stepLimit := some 1 } = .ok d' ∧ d'.language = "blocks" ∧
      d'.relevance = 0 := by
  have hrun : ((Grammar.compile "blocks" Grammar.blocks).toOption.bind fun a =>
      (Grammar.compile "letters" Grammar.letters).toOption.map fun b =>
        ([a, b].map fun g => ((g.defaultMode.relevance, g.modes.map (·.relevance)),
          (g.lex "x\x7b;" {}).toOption.isSome,
          (g.lex "x\x7b;" { stepLimit := some 1 }).toOption.isSome), a.name)) =
      some ([((1, [1]), false, false), ((1, [1]), true, false)], "blocks") := by
    decide +kernel
  obtain ⟨a, ha, hrun⟩ := Option.bind_eq_some_iff.1 hrun
  obtain ⟨b, hb, hvalues⟩ := Option.map_eq_some_iff.1 hrun
  rw [Except.toOption_eq_some_iff] at ha hb
  simp only [List.map_cons, List.map_nil, Prod.mk.injEq, List.cons.injEq] at hvalues
  obtain ⟨⟨⟨⟨hadefault, hamodes⟩, hareads, hacut⟩, ⟨⟨hbdefault, hbmodes⟩, hbreads, hbcut⟩, -⟩,
    hname⟩ := hvalues
  have haccepts : ∀ {g : Grammar} {options : LexOptions} {x : Bool},
      (g.lex "x\x7b;" options).toOption.isSome = x →
      (g.Accepts "x\x7b;" options ↔ x = true) := by
    rintro g options _ rfl
    rw [Option.isSome_iff_exists]
    exact exists_congr fun out => Except.toOption_eq_some_iff.symm
  have hweighs : ∀ g ∈ [a, b], g.Weighs := by
    have hmodes : ∀ {g : Grammar}, g.modes.map (·.relevance) = [1] →
        ∀ m ∈ g.modes, 0 ≤ m.relevance := by
      intro g hg m hm
      have hone : m.relevance ∈ g.modes.map (·.relevance) := List.mem_map_of_mem hm
      rw [hg, List.mem_singleton] at hone
      omega
    simp only [List.forall_mem_cons, List.not_mem_nil, false_implies, implies_true, and_true]
    exact ⟨⟨⟨_, _, ha, by decide⟩, hadefault.ge, hmodes hamodes⟩,
      ⟨_, _, hb, by decide⟩, hbdefault.ge, hmodes hbmodes⟩
  have hne : [a, b] ≠ [] := List.cons_ne_nil _ _
  have hsize : Text.size "x\x7b;".toList < 2 ^ 32 := by decide
  have hfails : ∀ g ∈ [a, b], ¬g.Accepts "x\x7b;" { stepLimit := some 1 } := by
    simp [haccepts hacut, haccepts hbcut]
  obtain ⟨d, _, _, _, hd, -, -, -, -, hsome, -⟩ := detect_rejects_last hne hweighs hsize {}
  obtain ⟨d', before, best, _, hd', hcut, -, hlanguage, -, -, hnone, -⟩ :=
    detect_rejects_last hne hweighs hsize { stepLimit := some 1 }
  obtain ⟨rfl, hzero⟩ := hnone hfails
  obtain ⟨rfl, -⟩ := List.cons.inj hcut
  have hb' : b.Accepts "x\x7b;" {} := (haccepts hbreads).2 rfl
  exact ⟨a, b, d, d', ha, hb, hne, hweighs, hsize, by simp [haccepts hareads], hb', hd,
    (hsome ⟨b, by simp, hb'⟩).2, hfails, hd', hlanguage.trans hname, hzero⟩

end Tint
