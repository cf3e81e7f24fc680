import Tint.Grammar.Classification
import Tint.Proofs.Search
import Tint.Proofs.Surveys
import Tint.Proofs.Tiling

/-!
# What classification makes of a mode's own text

**Nothing is lost (`classify_lays`).** However a text is cut into words, its spans lie end to end
and make up the text. A cut around a word loses nothing and its word is not empty (`find?_spec`);
the induction is on the number of cuts, with the text that waits for a span put before the rest.

**Classes (`class_of_mem_classify`).** A span has the class of the mode, or it is a keyword and has
the category that the table of the mode gives it.
-/

namespace Tint

open Text

variable {lexems : List Pattern} {text : List Char} {w : Found}

/-! ## The first word -/

namespace Survey

theorem exists_find_of_word (h : (ofLexems lexems text).word = some w) :
    (∃ p ∈ lexems, p.find text 0 = some w) ∧ w.start < w.stop := by
  obtain ⟨p, hp, hword⟩ := ((tells_foldl (·.find text 0) lexems).word w h).exists_mem
  obtain ⟨hfind, hlt⟩ := wordOf_eq_some_iff.1 hword
  exact ⟨⟨p, hp, hfind⟩, hlt⟩

theorem exists_slice?_of_word (h : (ofLexems lexems text).word = some w) :
    ∃ u, slice? text w.start w.stop = some u ∧ u ≠ [] := by
  obtain ⟨⟨p, -, hfind⟩, hlt⟩ := exists_find_of_word h
  obtain ⟨-, u, hu⟩ := Pattern.find_spec hfind
  have hsize := size_of_slice? hu
  refine ⟨u, hu, ?_⟩
  rintro rfl
  simp at hsize
  omega

end Survey

namespace Cut

/-- A cut loses nothing, and its word is not empty. -/
theorem find?_spec {budget : Nat} {passed : List Char} {cut : Cut}
    (h : find? lexems budget passed text = some cut) :
    cut.before ++ cut.word ++ cut.after = passed ++ text ∧ cut.word ≠ [] := by
  induction budget generalizing passed text with
  | zero => cases h
  | succ budget ih =>
    cases text with
    | nil => cases h
    | cons c cs =>
      rw [find?] at h
      split at h
      · next w hw =>
        obtain ⟨u, hu, hne⟩ := Survey.exists_slice?_of_word hw
        obtain ⟨pre, post, hcs, hpre, hstop⟩ := slice?_eq_some_iff.1 hu
        rw [hcs, List.append_assoc, ← hpre, splitAt_append_size] at h
        have hlen : w.stop - w.start = size u := by omega
        simp only [hpre, hlen, splitAt_append_size, Option.some.injEq] at h
        subst h
        rw [hcs]
        exact ⟨by simp, hne⟩
      · next place _ _ =>
        have hcut := splitAt_append (c :: cs) place
        split at h
        · next before x rest hsplit =>
          obtain ⟨hall, hne⟩ := ih h
          rw [hsplit] at hcut
          exact ⟨by rw [hall, ← hcut]; simp, hne⟩
        · cases h
      · cases h

theorem ofText?_spec {cut : Cut} (h : ofText? lexems text = some cut) :
    cut.before ++ cut.word ++ cut.after = text ∧ cut.word ≠ [] :=
  find?_spec h

end Cut

/-! ## Classification -/

namespace Mode

variable {m : Mode} {own plain : List Char} {className : String} {budget offset start : Nat}
  {s : Span}

theorem stretch_lays (className : String) (own : List Char) (offset : Nat) :
    Lays own offset (stretch className own offset) := by
  cases own with
  | nil => exact .nil offset
  | cons c cs =>
    have h := Lays.cons_ofList className (List.cons_ne_nil c cs) (.nil (offset + size (c :: cs)))
    rwa [List.append_nil] at h

theorem class_of_mem_stretch (hs : s ∈ stretch className own offset) : s.className = className := by
  unfold stretch at hs
  split at hs
  · cases hs
  · rw [List.mem_singleton.1 hs]

/-- The text that waits for a span and the rest become spans end to end. -/
theorem classifyFrom_lays (m : Mode) (budget : Nat) (plain text : List Char) (start : Nat) :
    Lays (plain ++ text) start (m.classifyFrom budget plain text (start + size plain)) := by
  induction budget generalizing plain text start with
  | zero =>
    rw [classifyFrom, Nat.add_sub_cancel]
    exact stretch_lays ..
  | succ budget ih =>
    rw [classifyFrom, Nat.add_sub_cancel]
    split
    · exact stretch_lays ..
    next cut hcut =>
    obtain ⟨rfl, hne⟩ := Cut.ofText?_spec hcut
    dsimp only
    split
    · next category _ =>
      have hbefore := stretch_lays m.className (plain ++ cut.before) start
      have hafter := ih [] cut.after (start + size plain + size cut.before + size cut.word)
      have hword := Lays.cons_ofList category hne hafter
      rw [Nat.add_assoc start, ← size_append] at hword
      have hall := hbefore.append hword
      simp only [size_append, List.append_assoc, ← Nat.add_assoc] at hall ⊢
      exact hall
    · have hrest := ih (plain ++ cut.before ++ cut.word) cut.after start
      simp only [size_append, List.append_assoc, Nat.add_assoc] at hrest ⊢
      exact hrest

/-- A mode's own text becomes spans end to end. -/
theorem classify_lays (m : Mode) (own : List Char) (offset : Nat) :
    Lays own offset (m.classify own offset) := by
  unfold classify
  split
  · exact stretch_lays ..
  · exact m.classifyFrom_lays (own.length + 1) [] own offset

theorem class_of_mem_classifyFrom (hs : s ∈ m.classifyFrom budget plain text offset) :
    s.className = m.className ∨ m.keywords.category? s.text = some s.className := by
  induction budget generalizing plain text offset with
  | zero => exact .inl (class_of_mem_stretch hs)
  | succ budget ih =>
    rw [classifyFrom] at hs
    split at hs
    · exact .inl (class_of_mem_stretch hs)
    dsimp only at hs
    split at hs
    · next hcategory =>
      rcases List.mem_append.1 hs with hs | hs
      · exact .inl (class_of_mem_stretch hs)
      rcases List.mem_cons.1 hs with rfl | hs
      · exact .inr hcategory
      · exact ih hs
    · exact ih hs

/-- A span of a mode's own text has the class of the mode, or it is a keyword of the mode and has
the category that the table gives it. -/
theorem class_of_mem_classify (hs : s ∈ m.classify own offset) :
    s.className = m.className ∨ m.keywords.category? s.text = some s.className := by
  unfold classify at hs
  split at hs
  · exact .inl (class_of_mem_stretch hs)
  · exact class_of_mem_classifyFrom hs

end Mode

end Tint
