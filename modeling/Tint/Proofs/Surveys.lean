import Mathlib.Data.List.Induction
import Tint.Grammar.Classification
import Tint.Proofs.Places

/-!
# What lexems find

A survey goes through the lexems of a mode once. It keeps the earliest match that is not empty, and
the place of the first empty one (`Survey.Tells`).

**Survey (`Survey.tells_foldl`).** The induction is on the list of lexems from its end, with one
lemma for each kind of match that a lexem can add: none, one that is not empty, and an empty one.
-/

namespace Tint

variable {lexems : List Pattern} {find : Pattern → Option Found} {p : Pattern} {f w w' : Found}

/-! ## The earliest match -/

/-- The match that starts first; of several that start alike, that of the lexem listed first. -/
def Earliest (find : Pattern → Option Found) (lexems : List Pattern) (w : Found) : Prop :=
  ∃ before p after, lexems = before ++ p :: after ∧ find p = some w ∧
    (∀ x ∈ before, ∀ f, find x = some f → w.start < f.start) ∧
    ∀ x ∈ after, ∀ f, find x = some f → w.start ≤ f.start

namespace Earliest

theorem exists_mem (h : Earliest find lexems w) : ∃ p ∈ lexems, find p = some w := by
  obtain ⟨before, p, after, rfl, hfind, -, -⟩ := h
  exact ⟨p, by simp, hfind⟩

theorem start_le (h : Earliest find lexems w) (hp : p ∈ lexems) (hf : find p = some f) :
    w.start ≤ f.start := by
  obtain ⟨before, q, after, rfl, hfind, hbefore, hafter⟩ := h
  rcases List.mem_append.1 hp with hp | hp
  · exact Nat.le_of_lt (hbefore p hp f hf)
  · rcases List.mem_cons.1 hp with rfl | hp
    · cases hfind.symm.trans hf
      exact Nat.le_refl _
    · exact hafter p hp f hf

theorem unique (h : Earliest find lexems w) (h' : Earliest find lexems w') : w = w' := by
  have hstart : w.start = w'.start := by
    obtain ⟨p, hp, hw⟩ := h.exists_mem
    obtain ⟨p', hp', hw'⟩ := h'.exists_mem
    exact Nat.le_antisymm (h.start_le hp' hw') (h'.start_le hp hw)
  obtain ⟨before, p, after, rfl, hw, hbefore, -⟩ := h
  obtain ⟨before', p', after', heq, hw', hbefore', -⟩ := h'
  rcases Text.eq_or_mem_of_cut heq with rfl | hp | hp
  · exact Option.some.inj (hw.symm.trans hw')
  · exact absurd (hbefore' p hp w hw) (by omega)
  · exact absurd (hbefore p' hp w' hw') (by omega)

theorem congr {find' : Pattern → Option Found} (h : Earliest find lexems w)
    (heq : ∀ x ∈ lexems, find x = find' x) : Earliest find' lexems w := by
  obtain ⟨before, p, after, rfl, hfind, hbefore, hafter⟩ := h
  refine ⟨before, p, after, rfl, heq p (by simp) ▸ hfind, fun x hx f hf => ?_,
    fun x hx f hf => ?_⟩
  · exact hbefore x hx f ((heq x (by simp [hx])).trans hf)
  · exact hafter x hx f ((heq x (by simp [hx])).trans hf)

theorem concat_of_le (h : Earliest find lexems w)
    (hp : ∀ f, find p = some f → w.start ≤ f.start) : Earliest find (lexems ++ [p]) w := by
  obtain ⟨before, q, after, rfl, hfind, hbefore, hafter⟩ := h
  refine ⟨before, q, after ++ [p], by simp, hfind, hbefore, fun x hx => ?_⟩
  rcases List.mem_append.1 hx with hx | hx
  · exact hafter x hx
  · rw [List.mem_singleton.1 hx]
    exact hp

theorem concat_of_lt (hp : find p = some w)
    (h : ∀ x ∈ lexems, ∀ f, find x = some f → w.start < f.start) :
    Earliest find (lexems ++ [p]) w :=
  ⟨lexems, p, [], rfl, hp, h, nofun⟩

end Earliest

/-! ## One round -/

/-- The match, if it is not empty. -/
def wordOf (found : Option Found) : Option Found := found.filter fun f => f.start < f.stop

theorem wordOf_of_lt (h : f.start < f.stop) : wordOf (some f) = some f := by
  simp [wordOf, h]

theorem wordOf_of_not_lt (h : ¬ f.start < f.stop) : wordOf (some f) = none := by
  simpa [wordOf] using h

theorem wordOf_eq_some_iff {found : Option Found} :
    wordOf found = some w ↔ found = some w ∧ w.start < w.stop := by
  simp [wordOf, Option.filter_eq_some_iff]

theorem wordOf_eq_none_iff {found : Option Found} :
    wordOf found = none ↔ ∀ f, found = some f → ¬ f.start < f.stop := by
  simp [wordOf, Option.filter_eq_none_iff]

namespace Survey

variable {s : Survey}

/-- What a survey says of what lexems find. -/
structure Tells (find : Pattern → Option Found) (lexems : List Pattern) (s : Survey) : Prop where
  word : ∀ w, s.word = some w → Earliest (fun x => wordOf (find x)) lexems w
  wordless : s.word = none → ∀ x ∈ lexems, wordOf (find x) = none
  empty : ∀ e, s.empty = some e →
    (∃ x ∈ lexems, ∃ f, find x = some f ∧ ¬ f.start < f.stop ∧ f.start = e) ∧
      ∀ x ∈ lexems, ∀ f, find x = some f → ¬ f.start < f.stop → e ≤ f.start
  full : s.empty = none → ∀ x ∈ lexems, ∀ f, find x = some f → f.start < f.stop

theorem tells_nil (find : Pattern → Option Found) : Tells find [] {} :=
  ⟨nofun, fun _ => nofun, nofun, fun _ => nofun⟩

theorem Tells.note_none (h : Tells find lexems s) (hp : find p = none) :
    Tells find (lexems ++ [p]) s where
  word w hw := (h.word w hw).concat_of_le fun f hf => by simp [hp, wordOf] at hf
  wordless hw := List.forall_mem_append.2
    ⟨h.wordless hw, List.forall_mem_singleton.2 (by simp [hp, wordOf])⟩
  empty e he := by
    obtain ⟨⟨x, hx, hfound⟩, hle⟩ := h.empty e he
    refine ⟨⟨x, List.mem_append_left _ hx, hfound⟩, List.forall_mem_append.2 ⟨hle, ?_⟩⟩
    exact List.forall_mem_singleton.2 fun f hf => by simp [hp] at hf
  full he := List.forall_mem_append.2
    ⟨h.full he, List.forall_mem_singleton.2 fun f hf => by simp [hp] at hf⟩

/-- A word takes the place of one that starts later, and changes nothing else. -/
theorem Tells.note_word (h : Tells find lexems s) (hp : find p = some f)
    (hlt : f.start < f.stop) : Tells find (lexems ++ [p]) (s.note (some f)) := by
  have hword : wordOf (find p) = some f := by rw [hp, wordOf_of_lt hlt]
  have hempty : (s.note (some f)).empty = s.empty := by
    simp only [note, if_pos hlt]
    split
    · split <;> rfl
    · rfl
  refine ⟨fun w hw => ?_, fun hw => ?_, fun e he => ?_, fun he => ?_⟩
  · simp only [note, if_pos hlt] at hw
    split at hw
    · next v hv =>
      have hearliest := h.word v hv
      split at hw
      · next hbefore =>
        cases hw
        refine .concat_of_lt hword fun x hx g hg => ?_
        exact Nat.lt_of_lt_of_le hbefore (hearliest.start_le hx hg)
      · next hbehind =>
        cases hv.symm.trans hw
        refine hearliest.concat_of_le fun g hg => ?_
        cases hword.symm.trans hg
        exact Nat.le_of_not_lt hbehind
    · next hnone =>
      cases hw
      refine .concat_of_lt hword fun x hx g hg => ?_
      rw [h.wordless hnone x hx] at hg
      cases hg
  · simp only [note, if_pos hlt] at hw
    split at hw
    · next v hv =>
      split at hw
      · cases hw
      · cases hv.symm.trans hw
    · cases hw
  · obtain ⟨⟨x, hx, hfound⟩, hle⟩ := h.empty e (hempty ▸ he)
    refine ⟨⟨x, List.mem_append_left _ hx, hfound⟩, List.forall_mem_append.2 ⟨hle, ?_⟩⟩
    refine List.forall_mem_singleton.2 fun g hg hge => ?_
    cases hp.symm.trans hg
    exact absurd hlt hge
  · refine List.forall_mem_append.2 ⟨h.full (hempty ▸ he), List.forall_mem_singleton.2 ?_⟩
    intro g hg
    cases hp.symm.trans hg
    exact hlt

/-- An empty match lowers the place of the first one, and changes nothing else. -/
theorem Tells.note_empty (h : Tells find lexems s) (hp : find p = some f)
    (hge : ¬ f.start < f.stop) : Tells find (lexems ++ [p]) (s.note (some f)) := by
  have hword : wordOf (find p) = none := by rw [hp, wordOf_of_not_lt hge]
  have hsame : (s.note (some f)).word = s.word := by simp only [note, if_neg hge]
  have hlow : (s.note (some f)).empty = some ((s.empty.map (Nat.min · f.start)).getD f.start) := by
    simp only [note, if_neg hge]
  refine ⟨fun w hw => ?_, fun hw => ?_, fun e he => ?_, fun he => ?_⟩
  · refine (h.word w (hsame ▸ hw)).concat_of_le fun g hg => ?_
    rw [hword] at hg
    cases hg
  · exact List.forall_mem_append.2 ⟨h.wordless (hsame ▸ hw), List.forall_mem_singleton.2 hword⟩
  · rw [hlow] at he
    cases hs : s.empty with
    | none =>
      rw [hs] at he
      cases he
      refine ⟨⟨p, by simp, f, hp, hge, rfl⟩,
        List.forall_mem_append.2 ⟨fun x hx g hg hgge => ?_, ?_⟩⟩
      · exact absurd (h.full hs x hx g hg) hgge
      · refine List.forall_mem_singleton.2 fun g hg _ => ?_
        cases hp.symm.trans hg
        exact Nat.le_refl _
    | some e' =>
      obtain ⟨⟨x, hx, g, hg, hgge, hgstart⟩, hle⟩ := h.empty e' hs
      have hmin : min e' f.start = e := by
        rwa [hs, Option.map_some, Option.getD_some, Option.some.injEq] at he
      refine ⟨?_, List.forall_mem_append.2 ⟨fun y hy k hk hkge => ?_, ?_⟩⟩
      · rcases Nat.le_total e' f.start with hfirst | hfirst
        · exact ⟨x, List.mem_append_left _ hx, g, hg, hgge, by omega⟩
        · exact ⟨p, by simp, f, hp, hge, by omega⟩
      · have := hle y hy k hk hkge
        omega
      · refine List.forall_mem_singleton.2 fun k hk _ => ?_
        cases hp.symm.trans hk
        omega
  · rw [hlow] at he
    cases he

/-- A survey tells what all lexems find. -/
theorem tells_foldl (find : Pattern → Option Found) (lexems : List Pattern) :
    Tells find lexems (lexems.foldl (fun s p => s.note (find p)) {}) := by
  induction lexems using List.reverseRecOn with
  | nil => exact tells_nil find
  | append_singleton lexems p ih =>
    rw [List.foldl_append, List.foldl_cons, List.foldl_nil]
    cases hp : find p with
    | none => exact ih.note_none hp
    | some f =>
      by_cases hlt : f.start < f.stop
      · exact ih.note_word hp hlt
      · exact ih.note_empty hp hlt

end Survey

end Tint
