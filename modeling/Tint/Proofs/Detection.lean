import Mathlib.Data.List.InsertIdx
import Tint.Detection
import Tint.Proofs.Ending

/-!
# The language of a text is the first best one

**First best (`FirstBest`).** A list is cut at its first best score: those before it are lower, and
those behind it are not higher. There is one such cut at most, and the loop that keeps the best
score so far ends with it, since only a higher score takes its place (`firstBest_highest`).

**Other lists.** Leaving out a score on either side of the cut leaves the cut where it was
(`FirstBest.eraseIdx`), and so does adding one at the end that is not higher
(`FirstBest.concat_of_le`).

**Theorem (`detect_firstBest`).** So the language of a text is that of the first grammar with the
highest score, and it changes with no grammar but that one and a better one.
-/

namespace Tint

/-! ## The first best score -/

/-- The score is higher than those before it, and none behind it is higher. -/
structure FirstBest (before : List LanguageScore) (best : LanguageScore)
    (after : List LanguageScore) : Prop where
  before_lt : ∀ s ∈ before, s.relevance < best.relevance
  after_le : ∀ s ∈ after, s.relevance ≤ best.relevance

namespace FirstBest

variable {before after before' after' : List LanguageScore} {best best' s : LanguageScore}

theorem le (h : FirstBest before best after) (hs : s ∈ before ++ best :: after) :
    s.relevance ≤ best.relevance := by
  rcases List.mem_append.1 hs with hs | hs
  · exact Int.le_of_lt (h.before_lt s hs)
  · rcases List.mem_cons.1 hs with rfl | hs
    · exact Int.le_refl _
    · exact h.after_le s hs

/-- A list has one first best score. -/
theorem unique (h : FirstBest before best after) (h' : FirstBest before' best' after')
    (heq : before ++ best :: after = before' ++ best' :: after') : best = best' := by
  have hle := h.le (s := best') (by rw [heq]; simp)
  have hle' := h'.le (s := best) (by rw [← heq]; simp)
  rcases Text.eq_or_mem_of_cut heq with hsame | hmem | hmem
  · exact hsame
  · exact absurd (h'.before_lt best hmem) (by omega)
  · exact absurd (h.before_lt best' hmem) (by omega)

theorem eraseIdx (h : FirstBest before best after) {i : Nat} (hi : i ≠ before.length) :
    ∃ before' after', (before ++ best :: after).eraseIdx i = before' ++ best :: after' ∧
      FirstBest before' best after' := by
  rcases Nat.lt_or_gt_of_ne hi with hlt | hgt
  · refine ⟨before.eraseIdx i, after, List.eraseIdx_append_of_lt_length hlt _, ?_, h.after_le⟩
    exact fun s hs => h.before_lt s (List.mem_of_mem_eraseIdx hs)
  · obtain ⟨k, hk⟩ : ∃ k, i - before.length = k + 1 := ⟨i - before.length - 1, by omega⟩
    refine ⟨before, after.eraseIdx k, ?_, h.before_lt, ?_⟩
    · rw [List.eraseIdx_append_of_length_le (by omega), hk, List.eraseIdx_cons_succ]
    · exact fun s hs => h.after_le s (List.mem_of_mem_eraseIdx hs)

theorem concat_of_le (h : FirstBest before best after) (hle : s.relevance ≤ best.relevance) :
    FirstBest before best (after ++ [s]) where
  before_lt := h.before_lt
  after_le x hx := by
    rcases List.mem_append.1 hx with hx | hx
    · exact h.after_le x hx
    · rw [List.mem_singleton.1 hx]
      exact hle

theorem concat_of_lt (h : FirstBest before best after) (hlt : best.relevance < s.relevance) :
    FirstBest (before ++ best :: after) s [] where
  before_lt _ hx := Int.lt_of_le_of_lt (h.le hx) hlt
  after_le := nofun

end FirstBest

/-! ## The loop -/

namespace Detection

variable {before after scores : List LanguageScore} {best : LanguageScore}

theorem highest_concat (first : LanguageScore) (rest : List LanguageScore) (s : LanguageScore) :
    highest first (rest ++ [s]) =
      if (highest first rest).relevance < s.relevance then s else highest first rest :=
  List.foldl_concat ..

/-- The loop ends with the first best score. -/
theorem firstBest_highest (first : LanguageScore) (rest : List LanguageScore) :
    ∃ before after, first :: rest = before ++ highest first rest :: after ∧
      FirstBest before (highest first rest) after := by
  induction rest using List.reverseRecOn with
  | nil => exact ⟨[], [], rfl, nofun, nofun⟩
  | append_singleton rest s ih =>
    obtain ⟨before, after, hcut, hbest⟩ := ih
    rw [highest_concat, ← List.cons_append, hcut]
    split
    · next hlt => exact ⟨_, [], rfl, hbest.concat_of_lt hlt⟩
    · next hge => exact ⟨before, after ++ [s], by simp, hbest.concat_of_le (by omega)⟩

theorem ofScores_eq (hcut : scores = before ++ best :: after) (h : FirstBest before best after) :
    ofScores scores = .ok { language := best.language, relevance := best.relevance, scores } := by
  cases scores with
  | nil => simp at hcut
  | cons first rest =>
    obtain ⟨before', after', hcut', h'⟩ := firstBest_highest first rest
    rw [ofScores, h'.unique h (hcut'.symm.trans hcut)]

end Detection

/-! ## Detecting a language -/

/-- The score of a grammar is the relevance of what it has read; if it could not read the text, it
is nothing, with the error. -/
structure Grammar.ScoresAs (g : Grammar) (text : String) (options : LexOptions)
    (s : LanguageScore) : Prop where
  language : s.language = g.name
  ok : ∀ out, g.lex text options = .ok out → s.relevance = out.relevance ∧ s.error = none
  error : ∀ e, g.lex text options = .error e → s.relevance = 0 ∧ s.error = some e

theorem Grammar.scoresAs_score (g : Grammar) (text : String) (options : LexOptions) :
    g.ScoresAs text options (g.score text options) := by
  unfold score
  cases h : g.lex text options with
  | ok out => exact ⟨rfl, fun _ h' => by rw [h] at h'; cases h'; exact ⟨rfl, rfl⟩, by simp [h]⟩
  | error e => exact ⟨rfl, by simp [h], fun _ h' => by rw [h] at h'; cases h'; exact ⟨rfl, rfl⟩⟩

/-- **The language of a text is that of the first grammar with the highest score.** The scores are
those of the grammars, in their order. Leaving out any other grammar changes neither the language
nor its score, and adding one at the end changes them only if its score is higher. -/
theorem detect_firstBest {grammars : List Grammar} (h : grammars ≠ []) (text : String)
    (options : LexOptions) :
    ∃ d before best after, detect text grammars options = .ok d ∧
      List.Forall₂ (fun g s => g.ScoresAs text options s) grammars d.scores ∧
      d.scores = before ++ best :: after ∧ FirstBest before best after ∧
      d.language = best.language ∧ d.relevance = best.relevance ∧
      (∀ i, i ≠ before.length → ∃ d', detect text (grammars.eraseIdx i) options = .ok d' ∧
        d'.language = d.language ∧ d'.relevance = d.relevance) ∧
      ∀ g, ∃ d', detect text (grammars ++ [g]) options = .ok d' ∧
        if d.relevance < (g.score text options).relevance then
          d'.language = g.name ∧ d'.relevance = (g.score text options).relevance
        else d'.language = d.language ∧ d'.relevance = d.relevance := by
  obtain ⟨first, rest, rfl⟩ := List.exists_cons_of_ne_nil h
  have hscores : ((first :: rest).map fun g => g.score text options) =
      first.score text options :: rest.map fun g => g.score text options := rfl
  obtain ⟨before, after, hcut, hbest⟩ := Detection.firstBest_highest (first.score text options)
    (rest.map fun g => g.score text options)
  rw [← hscores] at hcut
  refine ⟨_, before, _, after, Detection.ofScores_eq hcut hbest, ?_, hcut, hbest, rfl, rfl, ?_, ?_⟩
  · rw [List.forall₂_map_right_iff]
    exact List.forall₂_same.2 fun g _ => g.scoresAs_score text options
  · intro i hi
    obtain ⟨before', after', hcut', hbest'⟩ := hbest.eraseIdx hi
    rw [← hcut, List.eraseIdx_map] at hcut'
    exact ⟨_, Detection.ofScores_eq hcut' hbest', rfl, rfl⟩
  · intro g
    have hadd : ((first :: rest ++ [g]).map fun g => g.score text options) =
        ((first :: rest).map fun g => g.score text options) ++ [g.score text options] :=
      List.map_append
    rw [hcut] at hadd
    dsimp only
    split
    · next hlt =>
      refine ⟨_, Detection.ofScores_eq hadd (hbest.concat_of_lt hlt), ?_, rfl⟩
      exact (g.scoresAs_score text options).language
    · next hge =>
      rw [List.append_assoc, List.cons_append] at hadd
      exact ⟨_, Detection.ofScores_eq hadd (hbest.concat_of_le (by omega)), rfl, rfl⟩

/-- The first grammar fails, the other two have the same score. Without the failing one, the
language stays the same. -/
theorem detect_firstBest_letters :
    ∃ a b c d, Grammar.compile "blocks" Grammar.blocks = .ok a ∧
      Grammar.compile "first" Grammar.letters = .ok b ∧
      Grammar.compile "second" Grammar.letters = .ok c ∧ [a, b, c] ≠ [] ∧
      detect "x\x7b;" [a, b, c] {} = .ok d ∧ d.language = "first" ∧ d.relevance = 2 ∧
      d.scores = [⟨"blocks", 0, some (.illegalSequence 2 ";" "blocks" "block")⟩,
        ⟨"first", 2, none⟩, ⟨"second", 2, none⟩] ∧
      (∃ d', detect "x\x7b;" [b, c] {} = .ok d' ∧ d'.language = "first" ∧ d'.relevance = 2) ∧
      ∃ d', detect "x\x7b;" [a, b, c, a] {} = .ok d' ∧
        if d.relevance < (a.score "x\x7b;" {}).relevance then
          d'.language = a.name ∧ d'.relevance = (a.score "x\x7b;" {}).relevance
        else d'.language = "first" ∧ d'.relevance = 2 := by
  have hrun : ((Grammar.compile "blocks" Grammar.blocks).toOption.bind fun a =>
      (Grammar.compile "first" Grammar.letters).toOption.bind fun b =>
        (Grammar.compile "second" Grammar.letters).toOption.bind fun c =>
          (detect "x\x7b;" [a, b, c] {}).toOption) =
      some ⟨"first", 2, [⟨"blocks", 0, some (.illegalSequence 2 ";" "blocks" "block")⟩,
        ⟨"first", 2, none⟩, ⟨"second", 2, none⟩]⟩ := by
    decide +kernel
  obtain ⟨a, ha, hrun⟩ := Option.bind_eq_some_iff.1 hrun
  obtain ⟨b, hb, hrun⟩ := Option.bind_eq_some_iff.1 hrun
  obtain ⟨c, hc, hrun⟩ := Option.bind_eq_some_iff.1 hrun
  rw [Except.toOption_eq_some_iff] at ha hb hc hrun
  have hne : [a, b, c] ≠ [] := List.cons_ne_nil _ _
  obtain ⟨d, before, best, after, hd, -, hcut, -, -, hrelevance, herase, hadd⟩ :=
    detect_firstBest hne "x\x7b;" {}
  rw [hrun] at hd
  cases hd
  have hfirst : 0 ≠ before.length := by
    intro hzero
    obtain rfl : before = [] := List.length_eq_zero_iff.1 hzero.symm
    obtain ⟨rfl, -⟩ := List.cons.inj hcut
    cases hrelevance
  exact ⟨a, b, c, _, ha, hb, hc, hne, hrun, rfl, rfl, rfl, herase 0 hfirst, hadd a⟩

end Tint
