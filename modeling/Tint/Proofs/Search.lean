import Tint.Pattern
import Tint.Proofs.Places

/-!
# What a search finds, and what it depends on

**Where matches lie (`firstIn_spec`).** A match found from a place on lies at or after it, starts
and stops at places of the text, and is not empty where empty matches are not wanted.

**Locality (`firstMatch_eq`).** Whether a pattern matches at a place depends on the text from there
on and on one character before it. So the character before a search matters for a match that starts
at the place of the search itself, and for no other: behind the first character, `laterMatch` does
not see it any more.

**Reuse (`exists_firstMatch_of_le`).** It follows that a search whose answer lies ahead of some
later place has the same answer from there, up to what stands before that place.
-/

namespace Tint

open Text

namespace Regex.Automaton

theorem exists_append_of_run {a : Automaton} {cs : List Char} {threads : List Nat} {n : Nat}
    (h : run a cs threads 0 none = some n) : ∃ w post, cs = w ++ post ∧ size w = n := by
  induction cs generalizing threads n with
  | nil =>
    rw [run_nil] at h
    split at h
    · exact ⟨[], [], rfl, by simpa using h⟩
    · cases h
  | cons c cs ih =>
    rw [run_cons, run_eq, Option.or_eq_some_iff] at h
    rcases h with h | ⟨-, h⟩
    · obtain ⟨m, hm, rfl⟩ := Option.map_eq_some_iff.1 h
      obtain ⟨w, post, rfl, rfl⟩ := ih hm
      exact ⟨c :: w, post, rfl, by simp⟩
    · split at h
      · exact ⟨[], c :: cs, rfl, by simpa using h⟩
      · cases h

theorem exists_append_of_matchLength? {a : Automaton} {before : Option Char} {rest : List Char}
    {n : Nat} (h : a.matchLength? before rest = some n) :
    ∃ w post, rest = w ++ post ∧ size w = n :=
  exists_append_of_run h

end Regex.Automaton

namespace Pattern

variable {p : Pattern} {nonEmpty : Bool} {before : Option Char} {rest : List Char}
  {position : Nat} {f : Found}

theorem wanted?_eq_some_iff {length : Option Nat} :
    wanted? nonEmpty position length = some f ↔
      ∃ n, length = some n ∧ (nonEmpty = true → 0 < n) ∧ f = ⟨position, position + n⟩ := by
  cases length with
  | none => simp [wanted?]
  | some n =>
    by_cases hn : (nonEmpty && n == 0) = true
    · obtain ⟨hne, hz⟩ : nonEmpty = true ∧ n = 0 := by simpa using hn
      simp [wanted?, hne, hz]
    · have hpos : nonEmpty = true → 0 < n := fun hne =>
        Nat.pos_of_ne_zero fun hz => hn (by simp [hne, hz])
      simp only [wanted?, Option.bind_some, if_neg hn, Option.some.injEq, exists_eq_left']
      exact ⟨fun h => ⟨hpos, h.symm⟩, fun h => h.2.symm⟩

theorem start_of_wanted? {length : Option Nat} (h : wanted? nonEmpty position length = some f) :
    f.start = position := by
  obtain ⟨n, -, -, rfl⟩ := wanted?_eq_some_iff.1 h
  rfl

/-! ## Locality -/

/-- The first match behind the first character of the rest. -/
def laterMatch (p : Pattern) (nonEmpty : Bool) : (rest : List Char) → (position : Nat) →
    Option Found
  | [], _ => none
  | c :: cs, position => p.firstMatch nonEmpty (some c) cs (position + c.utf8Size)

/-- The character before the rest matters at its first place only. -/
theorem firstMatch_eq (p : Pattern) (nonEmpty : Bool) (before : Option Char) (rest : List Char)
    (position : Nat) :
    p.firstMatch nonEmpty before rest position =
      (wanted? nonEmpty position (p.matchLength? before rest)).or
        (p.laterMatch nonEmpty rest position) := by
  cases rest with
  | nil => simp [firstMatch, laterMatch]
  | cons c cs =>
    rw [firstMatch]
    cases h : wanted? nonEmpty position (p.matchLength? before (c :: cs)) <;> simp [laterMatch]

/-! ## Where matches lie -/

theorem exists_matchLength?_of_firstMatch
    (h : p.firstMatch nonEmpty before rest position = some f) :
    ∃ u before' post n, rest = u ++ post ∧ p.matchLength? before' post = some n ∧
      (nonEmpty = true → 0 < n) ∧ f = ⟨position + size u, position + size u + n⟩ := by
  induction rest generalizing before position with
  | nil =>
    obtain ⟨n, hn, hpos, rfl⟩ := wanted?_eq_some_iff.1 h
    exact ⟨[], before, [], n, rfl, hn, hpos, rfl⟩
  | cons c cs ih =>
    rw [firstMatch_eq, Option.or_eq_some_iff] at h
    rcases h with h | ⟨-, h⟩
    · obtain ⟨n, hn, hpos, rfl⟩ := wanted?_eq_some_iff.1 h
      exact ⟨[], before, c :: cs, n, rfl, hn, hpos, rfl⟩
    · obtain ⟨u, before', post, n, rfl, hn, hpos, rfl⟩ := ih h
      refine ⟨c :: u, before', post, n, rfl, hn, hpos, ?_⟩
      rw [size_cons, Nat.add_assoc position]

/-- A match in the rest cuts it in three, and the last two parts are where it stands. -/
theorem exists_append_of_firstMatch (h : p.firstMatch nonEmpty before rest position = some f) :
    ∃ u w post, rest = u ++ w ++ post ∧ f.start = position + size u ∧
      f.stop = f.start + size w ∧ (nonEmpty = true → w ≠ []) := by
  obtain ⟨u, before', later, n, rfl, hn, hpos, rfl⟩ := exists_matchLength?_of_firstMatch h
  obtain ⟨w, post, rfl, rfl⟩ := Regex.Automaton.exists_append_of_matchLength? hn
  refine ⟨u, w, post, (List.append_assoc ..).symm, rfl, rfl, ?_⟩
  rintro hne rfl
  exact absurd (hpos hne) (by simp)

/-- A match found in a text lies ahead, at places of the text. -/
theorem firstIn_spec {text : List Char} (hr : dropTo? text position = some rest)
    (h : p.firstIn nonEmpty rest position = some f) :
    position ≤ f.start ∧ (∃ w, slice? text f.start f.stop = some w) ∧
      (nonEmpty = true → f.start < f.stop) := by
  rw [firstIn_eq_firstMatch] at h
  obtain ⟨pre, rfl, rfl⟩ := dropTo?_eq_some_iff.1 hr
  obtain ⟨u, w, post, rfl, hstart, hstop, hne⟩ := exists_append_of_firstMatch h
  refine ⟨by omega, ⟨w, slice?_eq_some_iff.2 ⟨pre ++ u, post, by simp, ?_, hstop.symm⟩⟩, ?_⟩
  · rw [size_append, hstart]
  · intro he
    have := size_pos (hne he)
    omega

/-- A match found from a place on lies there, at places of the text. -/
theorem find_spec {text : List Char} (h : p.find text position = some f) :
    position ≤ f.start ∧ ∃ w, slice? text f.start f.stop = some w := by
  obtain ⟨rest, hrest, hfirst⟩ := Option.bind_eq_some_iff.1 h
  obtain ⟨hle, hslice, -⟩ := firstIn_spec hrest hfirst
  exact ⟨hle, hslice⟩

theorem bounds_of_find {text : List Char} (h : p.find text position = some f) :
    position ≤ f.start ∧ f.start ≤ f.stop ∧ f.stop ≤ size text := by
  obtain ⟨hle, w, hw⟩ := find_spec h
  have hsize := size_of_slice? hw
  exact ⟨hle, by omega, (isPlace_right_of_slice? hw).le_size⟩

/-! ## First matches that are not empty -/

theorem wanted?_nonEmpty {length : Option Nat}
    (h : ∀ f, wanted? false position length = some f → f.start < f.stop) :
    wanted? true position length = wanted? false position length := by
  cases length with
  | none => rfl
  | some n =>
    have hpos := h ⟨position, position + n⟩ rfl
    have hn : n ≠ 0 := by
      dsimp only at hpos
      omega
    simp [wanted?, hn]

theorem firstMatch_nonEmpty
    (h : ∀ f, p.firstMatch false before rest position = some f → f.start < f.stop) :
    p.firstMatch true before rest position = p.firstMatch false before rest position := by
  induction rest generalizing before position with
  | nil => exact wanted?_nonEmpty h
  | cons c cs ih =>
    simp only [firstMatch_eq] at h ⊢
    rw [wanted?_nonEmpty fun f hf => h f (by rw [hf, Option.some_or])]
    cases hwanted : wanted? false position (p.matchLength? before (c :: cs)) with
    | some f => rfl
    | none => exact ih fun f hf => h f (by rw [hwanted, Option.none_or]; exact hf)

theorem findNonEmpty_eq_find {text : List Char}
    (h : ∀ f, p.find text position = some f → f.start < f.stop) :
    p.findNonEmpty text position = p.find text position := by
  rw [findNonEmpty, find]
  cases hrest : dropTo? text position with
  | none => rfl
  | some rest =>
    rw [Option.bind_some, Option.bind_some, firstIn_eq_firstMatch, firstIn_eq_firstMatch]
    refine firstMatch_nonEmpty fun f hf => h f ?_
    rw [find, hrest, Option.bind_some, firstIn_eq_firstMatch, hf]

/-! ## Reuse -/

/-- An answer that lies ahead of a later place is the answer from there, given some character
before it. -/
theorem exists_firstMatch_of_le {u : List Char} {found : Option Found}
    (h : p.firstMatch nonEmpty before (u ++ rest) position = found)
    (hle : ∀ f, found = some f → position + size u ≤ f.start) :
    ∃ before', p.firstMatch nonEmpty before' rest (position + size u) = found := by
  induction u generalizing before position with
  | nil => exact ⟨before, h⟩
  | cons c u ih =>
    have hc := c.utf8Size_pos
    have hw : wanted? nonEmpty position (p.matchLength? before (c :: u ++ rest)) = none := by
      -- A match at the place itself would be the answer, and would not lie ahead.
      by_contra hne
      obtain ⟨f, hf⟩ := Option.ne_none_iff_exists'.1 hne
      rw [firstMatch_eq, hf, Option.some_or] at h
      have := hle f h.symm
      rw [start_of_wanted? hf, size_cons] at this
      omega
    rw [firstMatch_eq, hw, Option.none_or] at h
    have hlater : p.firstMatch nonEmpty (some c) (u ++ rest) (position + c.utf8Size) = found := h
    obtain ⟨before', hb⟩ := ih hlater fun f hf => by
      have := hle f hf
      rw [size_cons] at this
      omega
    exact ⟨before', by rw [← hb, size_cons, Nat.add_assoc]⟩

/-- An answer that lies behind a place is found without looking at the place itself. -/
theorem laterMatch_eq_of_firstMatch {found : Option Found}
    (h : p.firstMatch nonEmpty before rest position = found)
    (hne : ∀ f, found = some f → f.start ≠ position) :
    p.laterMatch nonEmpty rest position = found := by
  rw [firstMatch_eq] at h
  cases hw : wanted? nonEmpty position (p.matchLength? before rest) with
  | none => rwa [hw, Option.none_or] at h
  | some f =>
    rw [hw, Option.some_or] at h
    exact absurd (start_of_wanted? hw) (hne f h.symm)

end Pattern

end Tint
